import Runbook.Decode.Record
import Runbook.Files.Path
import Runbook.Log.Basic
import Runbook.Settings.Definition

/-!
# Settings

The settings of the program come from variables of the environment, from a file of definitions, or are what
they are by default, in this order. The names of variables do not depend on case. In the file a setting may
also go by its own name.
-/

namespace Runbook

/-- The settings of the program. -/
structure Settings where
  logLevel : String := "INFO"
  /-- The folder in which workflows and knowledge entries are kept. -/
  statePath : FilePath := .ofText "stepflow_state"
  /-- The seconds after which a dispatched step counts as failed. -/
  dispatchTimeout : Option Float := none
  /-- The longest delay of a step, in seconds. -/
  maxStepDelay : Float := 300.0
  /-- A catalog of tasks and handlers. -/
  catalogPath : Option FilePath := none

namespace Settings

/-- The file of workflows. -/
def workflowsFile (s : Settings) : FilePath :=
  s.statePath.child "workflows.json"

/-- The file of knowledge entries. -/
def knowledgeFile (s : Settings) : FilePath :=
  s.statePath.child "knowledge.json"

/-- The variables and the names of the settings. -/
def names : List (String × String) :=
  [("STEPFLOW_LOG_LEVEL", "log_level"), ("STEPFLOW_STATE_PATH", "state_path"),
    ("STEPFLOW_DISPATCH_TIMEOUT_SECONDS", "dispatch_timeout_seconds"),
    ("STEPFLOW_MAX_STEP_DELAY_SECONDS", "max_step_delay_seconds"),
    ("STEPFLOW_CATALOG_PATH", "catalog_path")]

/-- The value of a variable in any case. Of two names that differ in case alone the later one counts. -/
def valueOf? (name : String) (vs : Variables) : Option String :=
  (vs.reverse.find? fun entry => entry.1.toLower == name.toLower).bind Prod.snd

/-- The given settings as the members of a record. -/
def members (environment : List (String × String)) (file : Variables) : Fields :=
  let outer : Variables := environment.map fun (name, value) => (name, some value)
  names.flatMap fun (outerName, name) =>
    let given := (valueOf? outerName outer).or (valueOf? outerName file)
    (given.map fun value => (outerName, Json.str value)).toList ++
      ((valueOf? name file).map fun value => (name, Json.str value)).toList

/-- Decodes a path. -/
def path (json : Json) : Decode.Decoded FilePath :=
  (Decode.text json).map FilePath.ofText

open Decode in
/-- Decodes the members of the record of settings. -/
def decodeFields (fields : Fields) : Decoded Settings :=
  let defaults : Settings := {}
  Settings.mk
    <$> optional ["STEPFLOW_LOG_LEVEL", "log_level"] text defaults.logLevel fields
    <*> optional ["STEPFLOW_STATE_PATH", "state_path"] path defaults.statePath fields
    <*> optional ["STEPFLOW_DISPATCH_TIMEOUT_SECONDS", "dispatch_timeout_seconds"]
      (nullable (numberAbove 0.0)) defaults.dispatchTimeout fields
    <*> optional ["STEPFLOW_MAX_STEP_DELAY_SECONDS", "max_step_delay_seconds"] (numberFrom 0.0)
      defaults.maxStepDelay fields
    <*> optional ["STEPFLOW_CATALOG_PATH", "catalog_path"] (nullable path) defaults.catalogPath fields

/-- The name under which settings are expected. -/
def recordName : String := "EngineSettings"

/-- The file of definitions. -/
def fileName : FilePath := .ofText ".env"

/-- The settings that an environment and the text of a file of definitions give. -/
def decode (environment : List (String × String)) (file : Option String) : Decode.Decoded Settings :=
  decodeFields (members environment (file.elim [] (defined environment)))

/-- The names of the levels from which on log records are written, with their severity. -/
def thresholds : List (String × Nat) :=
  [("CRITICAL", 50), ("FATAL", 50), ("ERROR", 40), ("WARN", 30), ("WARNING", 30), ("INFO", 20),
    ("DEBUG", 10), ("NOTSET", 0)]

/-- A letter in capitals, if that gives a letter of ASCII. Two letters outside of ASCII do. -/
def capital (c : Char) : Char :=
  if c = 'ı' then 'I' else if c = 'ſ' then 'S' else c.toUpper

/-- The severity from which on log records are written; nothing if there is no level of that name. -/
def threshold? (s : Settings) : Option Nat :=
  thresholds.lookup (s.logLevel.map capital)

/-- The settings written as a record. -/
def toJson (s : Settings) : Json :=
  .record
    [("log_level", .str s.logLevel), ("state_path", .str s.statePath.write),
      ("dispatch_timeout_seconds", s.dispatchTimeout.elim .null .float),
      ("max_step_delay_seconds", .float s.maxStepDelay),
      ("catalog_path", Json.ofText? (s.catalogPath.map FilePath.write)),
      ("workflows_file", .str s.workflowsFile.write), ("knowledge_file", .str s.knowledgeFile.write)]

end Settings

end Runbook
