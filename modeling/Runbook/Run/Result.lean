import Runbook.DataPoint.Basic
import Runbook.Response
import Runbook.Workflow.Step

/-!
# Results of runs

A run has one result for each step, in the order of the steps. It fails if a step does; a step that was
skipped has not failed. By the clock of the library, which stands still during a run, nothing takes any
time.
-/

namespace Runbook.Run

/-- How a step ended. -/
inductive Status where
  | succeeded
  | failed
  | skipped
  deriving DecidableEq, Repr

/-- The name of a status. -/
def Status.name : Status → String
  | succeeded => "succeeded"
  | failed => "failed"
  | skipped => "skipped"

/-- The result of one step. -/
structure StepResult where
  stepId : String
  kind : Step.Kind
  status : Status
  /-- What the host answered in the end. -/
  response : Option Response := none
  error : Option String := none
  /-- Why the step was skipped. -/
  reason : Option String := none
  /-- How often the step was dispatched. -/
  attempts : Nat := 0

namespace StepResult

/-- Has the step not failed? -/
def isSuccess (r : StepResult) : Bool :=
  r.status != .failed

/-- Was the step skipped? -/
def isSkipped (r : StepResult) : Bool :=
  r.status == .skipped

/-- The result of a step written as a record. -/
def toJson (r : StepResult) : Json :=
  .record
    [("step_id", .str r.stepId), ("kind", .str r.kind.name), ("status", .str r.status.name),
      ("result", Json.ofOption Response.toJson r.response), ("error", Json.ofText? r.error),
      ("reason", Json.ofText? r.reason), ("attempts", .nat r.attempts), ("duration_ms", .nat 0)]

end StepResult

/-- The result of a run. -/
structure Result where
  workflowId : String
  success : Bool
  steps : List StepResult := []
  dataPoints : List DataPoint := []
  error : Option String := none

namespace Result

/-- The ids of the steps that failed. -/
def failedSteps (r : Result) : List String :=
  (r.steps.filter fun s => s.status == .failed).map StepResult.stepId

/-- The result of a run written as a record. -/
def toJson (r : Result) : Json :=
  .record
    [("workflow_id", .str r.workflowId), ("success", .bool r.success),
      ("results", .list (r.steps.map StepResult.toJson)),
      ("data_points", .list (r.dataPoints.map (DataPoint.toJson .full))),
      ("error", Json.ofText? r.error), ("duration_ms", .nat 0)]

end Result

end Runbook.Run
