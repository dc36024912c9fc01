/-
This file holds the whole service as a function of its surroundings: the variables of the process,
the files it can read, and its input. It reads its settings, loads the rule file they name, and
answers the lines of the input. Settings that cannot be read are replaced by the built-in ones, and
a rule file that cannot be loaded leaves the service without rules.
-/
import Rulebook.Host
import Rulebook.Sales
import Rulebook.Settings

namespace Rulebook

/-- What a process finds around it. -/
structure Surroundings where
  /-- The variables of the process. -/
  environmentVariables : List (String × String)
  /-- The content of the file at a path, if it can be read. -/
  file : String → Option ByteArray

namespace Service

/-- The name of the service, after which one of its settings files is called. -/
def name : String := "rule-dispatcher"

/-- The path of a file in a directory. -/
def pathIn (directory file : String) : String :=
  if directory.isEmpty then file
  else if directory.endsWith "/" then directory ++ file
  else directory ++ "/" ++ file

/-- The directory of the settings files, which the variable `CONFIG_DIR` may name. -/
def directory (surroundings : Surroundings) : String :=
  (surroundings.environmentVariables.lookup "CONFIG_DIR").getD "config"

/-- The sources of the settings of a service. -/
def sources (surroundings : Surroundings) (serviceName : String) : Settings.Sources where
  serviceName
  environment := surroundings.environmentVariables.lookup "RULES_ENV"
  file file := surroundings.file (pathIn (directory surroundings) file)
  environmentVariables := surroundings.environmentVariables

/-- The settings of the service. -/
def settings (surroundings : Surroundings) : Settings :=
  (Settings.load? (sources surroundings name)).getD { serviceName := name }

/-- The service without rules. -/
def idle (settings : Settings) : Host Sales.Outbox :=
  { compiler := Sales.compiler, limit := settings.engine.triggerTimeoutMs }

/-- The service with the rules of the file that the settings name, if that can be loaded. -/
def start (surroundings : Surroundings) (absent : Absent) : Host Sales.Outbox :=
  let settings := settings surroundings
  let path := settings.engine.rulesPath
  let source := match surroundings.file path with
    | some content => Host.RuleSource.bytes content
    | none => .missing "not found"
  ((idle settings).reload absent path source).2

/-- What the service answers to some input. -/
def transcript (surroundings : Surroundings) (absent : Absent) (input : ByteArray) : Transcript :=
  (((start surroundings absent).run false input).run {}).1

/-- The exit code of a run: one if it ended at input that is not UTF-8. -/
def exitCode (transcript : Transcript) : Nat := if transcript.broken then 1 else 0

end Service

end Rulebook
