import Runbook.Decode.Record
import Runbook.Json.Form

/-!
# Steps

A step sends its input to a task or to a handler. It may have a condition on which it is skipped, a delay
before it, and a retry rule. Members that the library does not know are kept as they are, so that loading
and saving a workflow loses nothing.
-/

/-!
## Retries

A step may be tried more than once, with a wait before each further attempt that grows by a constant
factor.
-/

namespace Runbook

/-- How often a step is tried and how long it waits in between, in seconds. -/
structure Retry where
  maxAttempts : Int := 1
  delay : Float := 0.0
  backoffMultiplier : Float := 1.0

namespace Retry

/-- The names of the fields. -/
def fieldNames : List Decode.Names :=
  [["maxAttempts", "max_attempts"], ["delay"], ["backoffMultiplier", "backoff_multiplier"]]

open Decode in
/-- Decodes the members of a retry rule: one attempt at least, no negative delay, no shrinking. -/
def decodeFields (fields : Fields) : Decoded Retry :=
  Retry.mk
    <$> optional ["maxAttempts", "max_attempts"] (integerFrom 1) 1 fields
    <*> optional ["delay"] (numberFrom 0.0) 0.0 fields
    <*> optional ["backoffMultiplier", "backoff_multiplier"] (numberFrom 1.0) 1.0 fields

/-- Decodes a retry rule. -/
def decode : Json → Decode.Decoded Retry :=
  Decode.record decodeFields

/-- The name under which retry rules are expected. -/
def recordName : String := "RetryConfig"

/-- A retry rule written as a record. -/
def toJson (r : Retry) : Json :=
  .record
    [("maxAttempts", .int r.maxAttempts), ("delay", .float r.delay),
      ("backoffMultiplier", .float r.backoffMultiplier)]

/-- A wait too long for a number. -/
inductive WaitError where
  | overflow
  deriving DecidableEq, Repr

/-- The words for a wait that is too long. -/
def WaitError.message : WaitError → String
  | overflow => "(34, 'Numerical result out of range')"

/-- The seconds to wait before an attempt. The first attempt is number 1 and never waits, the second
waits for `delay`, and each further one `backoffMultiplier` times as long as the one before. -/
def waitBefore (r : Retry) (attempt : Nat) : Except WaitError Float :=
  let factor := Float.pow r.backoffMultiplier (Float.ofInt ((attempt : Int) - 2))
  if factor.isInf && r.backoffMultiplier.isFinite then .error .overflow
  else .ok (r.delay * factor)

end Retry

/-! ## Steps -/

/-- To what kind of target a step is sent. -/
inductive Step.Kind where
  | task
  | handler
  deriving DecidableEq, Repr

/-- One action of a workflow. -/
structure Step where
  id : String
  kind : Step.Kind
  taskId : Option String := none
  handlerId : Option String := none
  input : Fields := []
  condition : Option String := none
  /-- Seconds to wait before the step. -/
  delay : Option Float := none
  retry : Option Retry := none
  /-- Members that are kept without a meaning. -/
  extras : Fields := []

namespace Step

/-- The kinds of steps under their names. -/
def kinds : List (String × Kind) :=
  [("task", .task), ("handler", .handler)]

/-- The name of a kind. -/
def Kind.name : Kind → String
  | task => "task"
  | handler => "handler"

/-- The member that names the target of a step of this kind. -/
def Kind.targetKey : Kind → String
  | task => "taskId"
  | handler => "handlerId"

/-- The names of the fields. -/
def fieldNames : List Decode.Names :=
  [["id"], ["type", "kind"], ["taskId", "task_id"], ["handlerId", "handler_id"], ["input"],
    ["condition"], ["delay"], ["retry"]]

open Decode in
/-- Decodes the members of a step. -/
def decodeFields (fields : Fields) : Decoded Step :=
  Step.mk
    <$> required ["id"] text fields
    <*> required ["type", "kind"] (oneOf kinds .notMember) fields
    <*> optional ["taskId", "task_id"] (nullable text) none fields
    <*> optional ["handlerId", "handler_id"] (nullable text) none fields
    <*> optional ["input"] map [] fields
    <*> optional ["condition"] (nullable text) none fields
    <*> optional ["delay"] (nullable (numberFrom 0.0)) none fields
    <*> optional ["retry"] (nullable Retry.decode) none fields
    <*> pure (Decode.extras fieldNames fields)

/-- Decodes a step. -/
def decode : Json → Decode.Decoded Step :=
  Decode.record decodeFields

/-- The name under which steps are expected. -/
def recordName : String := "WorkflowStep"

/-- A step written as a record. -/
def toJson (form : Json.Form) (s : Step) : Json :=
  let members : Fields :=
    [("id", .str s.id), ("type", .str s.kind.name), ("taskId", Json.ofText? s.taskId),
      ("handlerId", Json.ofText? s.handlerId), ("input", (Json.record s.input).exchanged),
      ("condition", Json.ofText? s.condition), ("delay", Json.ofOption .float s.delay),
      ("retry", Json.ofOption Retry.toJson s.retry)]
  .record (form.fields members ++ Json.exchangedFields (form.fields s.extras))

/-- The task or handler that the step is sent to. -/
def target? (s : Step) : Option String :=
  match s.kind with
  | .task => s.taskId
  | .handler => s.handlerId

/-- The id of the data point that holds the output of the step. -/
def outputId (s : Step) : String :=
  s!"{s.id}_output"

end Step

end Runbook
