/-
This file is the command line of the service. It reads events from standard input, line by line,
and writes one line of JSON for each to standard output. All it decides is decided elsewhere; here
are only the variables of the process, files, random bits for fresh identifiers, and the streams.
-/
import Rulebook.Service

namespace Rulebook.CommandLine

/-! ### Fresh identifiers -/

/-- A hexadecimal number of some digits. -/
def hexadecimal (digits value : Nat) : String :=
  let written := Nat.toDigits 16 value
  String.ofList (List.replicate (digits - written.length) '0' ++ written)

/-- An identifier made of 122 bits, in the form of a version 4 UUID. -/
def identifier (bits : Nat) : String :=
  let part (shift count : Nat) : Nat := bits / Nat.pow 2 shift % Nat.pow 2 count
  "-".intercalate [
    hexadecimal 8 (part 0 32), hexadecimal 4 (part 32 16), hexadecimal 4 (0x4000 + part 48 12),
    hexadecimal 4 (0x8000 + part 60 14), hexadecimal 12 (part 74 48)]

/-- A number for the place of an entity, different for different places. -/
def placeNumber (path : List Nat) : Nat :=
  path.foldl (fun number index => number * Nat.pow 2 20 + index + 1) 0

/-- Fresh identifiers from random bits. The service never shows when a rule set was made, so the
present time is not asked for. -/
def readAbsent : IO Absent := do
  let bytes ← IO.getRandomBytes 16
  let seed := bytes.data.toList.foldl (fun number byte => number * 256 + byte.toNat) 0
  return { fresh := fun path => identifier (seed + placeNumber path), now := ⟨0, 0⟩ }

/-! ### Surroundings -/

/-- The variables that matter to the service. -/
def variableNames : List String := [
  "CONFIG_DIR", "RULES_ENV", "RULES_SERVICE_NAME", "RULES_ENVIRONMENT", "RULES_ENGINE",
  "RULES_ENGINE__RULES_PATH", "RULES_ENGINE__TRIGGER_TIMEOUT_MS", "RULES_ENGINE__WATCH_RULES",
  "RULES_ENGINE__RELOAD_DEBOUNCE_MS", "RULES_OBSERVABILITY", "RULES_OBSERVABILITY__LOG_LEVEL",
  "RULES_OBSERVABILITY__JSON_LOGS", "RULES_OBSERVABILITY__METRICS_ENABLED",
  "RULES_OBSERVABILITY__METRICS_PORT"]

/-- The variables of the process that are set. -/
def readVariables : IO (List (String × String)) :=
  variableNames.filterMapM fun name => do
    return (← IO.getEnv name).map fun value => (name, value)

/-- The content of a file, if it can be read. -/
def readFile? (path : String) : IO (Option ByteArray) := do
  try
    return some (← IO.FS.readBinFile path)
  catch _ =>
    return none

/-- The surroundings of the process, with the files that the service may ask for. -/
def readSurroundings : IO Surroundings := do
  let environmentVariables ← readVariables
  let bare : Surroundings := { environmentVariables, file := fun _ => none }
  let sources := Service.sources bare Service.name
  let settingsPaths := sources.fileNames.map (Service.pathIn (Service.directory bare))
  let settingsFiles ← settingsPaths.filterMapM fun path => do
    return (← readFile? path).map fun content => (path, content)
  let configured : Surroundings :=
    { environmentVariables, file := fun path => settingsFiles.lookup path }
  let rulesPath := (Service.settings configured).engine.rulesPath
  let rules ← readFile? rulesPath
  return {
    environmentVariables
    file := fun path => if path = rulesPath then rules else settingsFiles.lookup path }

/-! ### Streams -/

/-- Answers one line, and tells whether it was valid UTF-8. -/
def serveLine (host : Host Sales.Outbox) (output : IO.FS.Stream) (outbox : Sales.Outbox)
    (line : List UInt8) : IO (Sales.Outbox × Bool) := do
  let (transcript, outbox) := (answerLines host.answer [line]).run outbox
  output.putStr transcript.written
  output.flush
  return (outbox, !transcript.broken)

/-- Answers lines as they arrive, up to the end of the input or a line that is not UTF-8; gives the
exit code. -/
partial def serve (host : Host Sales.Outbox) (input output : IO.FS.Stream) (outbox : Sales.Outbox)
    (pending : List UInt8) : IO UInt32 := do
  match pending.span (· != 10) with
  | (line, _ :: rest) =>
    let (outbox, valid) ← serveLine host output outbox line
    if valid then serve host input output outbox rest else return 1
  | (unfinished, []) =>
    let chunk ← input.read 65536
    if chunk.isEmpty then
      let (_, valid) ← serveLine host output outbox unfinished
      return if valid then 0 else 1
    else serve host input output outbox (unfinished ++ chunk.data.toList)

end Rulebook.CommandLine

/-- Runs the service on standard input and output. -/
def main : IO UInt32 := do
  let surroundings ← Rulebook.CommandLine.readSurroundings
  let host := Rulebook.Service.start surroundings (← Rulebook.CommandLine.readAbsent)
  Rulebook.CommandLine.serve host (← IO.getStdin) (← IO.getStdout) {} []
