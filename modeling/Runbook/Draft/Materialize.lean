import Runbook.Draft.Completion
import Runbook.Draft.Reading
import Runbook.Reference.Legacy
import Runbook.Reference.Repair
import Runbook.Validation.Workflow

/-!
# From a draft to a workflow

`Draft.materialize` makes a workflow of the answer of a model: the answer is read, completed, brought to
the notation of tokens, repaired, validated, and decoded. Every stage leaves a report, so that it can be
told what was changed and why nothing came of it.
-/

namespace Runbook.Draft

/-- The reports on a draft that could be read. -/
structure Stages where
  validation : Validation.Report
  repair : Repair.Result Json
  /-- Did the draft have references of the older kind? -/
  migrated : Bool

/-- What comes of a draft. -/
inductive Outcome where
  | blank
  | malformed (error : Json.ReadError)
  | notRecord
  | invalid (stages : Stages)
  /-- The draft is valid, but it does not decode; there are `count` issues. -/
  | misshapen (stages : Stages) (count : Nat)
  | built (stages : Stages) (workflow : Workflow)

namespace Outcome

/-- The workflow, if one was built. -/
def workflow? : Outcome → Option Workflow
  | built _ workflow => some workflow
  | _ => none

/-- The reports, if the draft could be read. -/
def stages? : Outcome → Option Stages
  | invalid stages => some stages
  | misshapen stages _ => some stages
  | built stages _ => some stages
  | _ => none

/-- Was a workflow built? -/
def isSuccess (o : Outcome) : Bool :=
  o.workflow?.isSome

/-- Why no workflow was built. -/
def error? : Outcome → Option String
  | blank => some "Empty response"
  | malformed error => some (ReadError.malformed error).message
  | notRecord => some "Generated JSON is not an object"
  | invalid stages =>
    let messages := stages.validation.errors.map fun f => f.problem.message
    some ("Validation failed: " ++ "; ".intercalate messages)
  | misshapen _ count => some s!"Workflow does not match the expected shape: {count} error(s)"
  | built _ _ => none

/-- What came of a draft, written as a record. -/
def toJson (o : Outcome) : Json :=
  Json.Form.brief.record
    [("success", .bool o.isSuccess), ("migrated", .bool (o.stages?.any Stages.migrated)),
      ("workflow", Json.ofOption (fun w => w.toJson .brief) o.workflow?),
      ("validation", Json.ofOption (fun s => s.validation.toJson) o.stages?),
      ("repair", Json.ofOption (fun s => s.repair.toJson) o.stages?),
      ("error", Json.ofText? o.error?)]

end Outcome

/-- What can put an end to the making of a workflow, so that nothing comes of it at all. -/
inductive Failure where
  | refused (error : Json.ReadError)
  | obstacle (obstacle : Schema.Obstacle)
  deriving DecidableEq, Repr

/-- The warning about a draft that cannot be read. -/
def malformedRecord (error : Json.ReadError) : Log.Record :=
  { source := .generation
    level := .warning
    message := "Generated workflow is not valid JSON"
    fields := [("error", .str (ReadError.malformed error).message)] }

/-- The note on a draft that was repaired. -/
def repairedRecord (count : Nat) : Log.Record :=
  { source := .generation
    level := .info
    message := "Repaired generated workflow"
    fields := [("fixed_count", .nat count)] }

/-- The note on a draft of which a workflow was made. -/
def builtRecord (w : Workflow) (mended : Bool) : Log.Record :=
  { source := .generation
    level := .info
    message := "Generated workflow materialized"
    fields :=
      [("workflow_id", Json.ofText? w.id), ("steps", .nat w.steps.length),
        ("parse_repaired", .bool mended)] }

/-- Repairs the references of a draft, and tells of it. -/
def repairLogged (draft : Json) : Logged (Repair.Result Json) := do
  let result := Repair.repairJson draft
  ⟨(), result.records⟩
  if result.repaired then Logged.tell (repairedRecord result.fixedCount)
  return result

/-- Makes a workflow of the members of a draft. -/
def build (now stamp : Int) (catalog : Option Catalog) (mended : Bool) (fields : Fields) :
    Attempt Failure Outcome := do
  let draft := Json.record (complete stamp fields)
  let result ← ExceptT.lift (repairLogged (Legacy.migrate draft))
  let report ← ExceptT.adapt Failure.obstacle (Validation.validate catalog result.workflow)
  let stages : Stages := ⟨report, result, Legacy.needsMigration draft⟩
  if !report.isValid then return .invalid stages
  else
    match Workflow.decode now (.record (withDefaults stamp (result.workflow.fields?.getD []))) with
    | .rejected issues => return .misshapen stages issues.length
    | .accepted w =>
      Attempt.tell (builtRecord w mended)
      return .built stages w

/-- Makes a workflow of the answer of a model. `now` is the time, and `stamp` the time from which ids are
made. -/
def materialize (now stamp : Int) (catalog : Option Catalog) (answer : String) :
    Attempt Failure Outcome := do
  if Text.isAllBlank answer then return .blank
  else
    match read answer with
    | .error (.refused error) => throw (.refused error)
    | .error (.malformed error) =>
      Attempt.tell (malformedRecord error)
      return .malformed error
    | .ok ⟨.record fields, mended⟩ => build now stamp catalog mended fields
    | .ok _ => return .notRecord

end Runbook.Draft
