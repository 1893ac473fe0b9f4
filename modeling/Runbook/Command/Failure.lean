import Runbook.Draft.Materialize
import Runbook.Files.Path
import Runbook.Run.Registry
import Runbook.Storage.Records

/-!
# Failures of commands

A command fails over what it is given, over a workflow that there is not, or over something that it cannot
do anything about. How it fails decides what is said and with which code the program ends.
-/

namespace Runbook.Command

/-- What is wrong with what a command is given. -/
inductive BadInput where
  | noFile (path : FilePath)
  | notJson (path : FilePath) (error : Json.ReadError)
  | notWorkflow (path : FilePath) (rejection : Decode.Rejection)
  | notCatalog (path : FilePath) (rejection : Decode.Rejection)
  | notContext (path : FilePath)
  | noContent
  deriving DecidableEq, Repr

/-- The words for what is wrong with what a command is given. -/
def BadInput.message : BadInput → String
  | noFile path => s!"File not found: {path.write}"
  | notJson path error => s!"{path.write} is not valid JSON: {error.message}"
  | notWorkflow path rejection => s!"{path.write} is not a valid workflow:\n{rejection.summary}"
  | notCatalog path rejection => s!"{path.write} is not a valid step catalog:\n{rejection.summary}"
  | notContext path => s!"{path.write} must hold a JSON list of data point records"
  | noContent => "kb add needs --content or --content-file"

/-- What a command cannot do anything about. -/
inductive Breakdown where
  | file (error : FileError)
  /-- The bytes of a file are no text. -/
  | undecodable
  /-- A text has an integer of too many digits. -/
  | refused (error : Json.ReadError)
  | storage (error : StorageError)
  | draft (failure : Draft.Failure)
  | schema (obstacle : Schema.Obstacle)
  | transition (error : Run.TransitionError)

/-- Why a command fails. -/
inductive Failure where
  | badInput (problem : BadInput)
  | unknownWorkflow (error : UnknownWorkflow)
  | unknownEntry (id : String)
  | breakdown (cause : Breakdown)

/-- The codes with which the program ends. -/
inductive ExitCode where
  | ok
  | error
  | usage
  | failed
  | notFound
  deriving DecidableEq, Repr

/-- The number of an exit code. -/
def ExitCode.toNat : ExitCode → Nat
  | ok => 0
  | error => 1
  | usage => 2
  | failed => 3
  | notFound => 4

/-- The code for a verdict. -/
def ExitCode.ofSuccess (success : Bool) : ExitCode :=
  if success then ok else failed

/-- The code after a failure. -/
def Failure.exitCode : Failure → ExitCode
  | badInput _ => .usage
  | unknownWorkflow _ => .notFound
  | unknownEntry _ => .notFound
  | breakdown _ => .error

/-- A log record about a command. -/
def record (level : Log.Level) (message : String) (fields : Fields) (trace : Bool := false) : Log.Record :=
  ⟨.commands, level, message, fields, trace⟩

/-- What is written about a failure. -/
def Failure.outputs : Failure → List Output
  | badInput problem => [.remark problem.message]
  | unknownWorkflow e =>
    [.record (record .warning e.message [("workflow_id", .str e.id)]), .remark e.message]
  | unknownEntry id => [.remark s!"Knowledge entry not found: {id}"]
  | breakdown _ => [.record (record .error "Command failed" [] true)]

end Runbook.Command
