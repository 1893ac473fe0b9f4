import Runbook.Catalog
import Runbook.Log.Basic
import Runbook.Reference.Match
import Runbook.Schema.Check
import Runbook.Schema.Meta
import Runbook.Validation.Parts

/-!
# Validation of workflows

`Validation.validate` looks at a workflow in JSON, whole or broken, and reports everything that is wrong
with it. With a catalog, the targets of steps must be in it, and their inputs must fit the schemas there;
a schema that refers to nowhere puts an end to the validation.
-/

namespace Runbook.Validation

/-- A check that writes records and may meet an obstacle in a schema. -/
abbrev Check := Attempt Schema.Obstacle (List Finding)

/-! ## Steps -/

/-- The note that a schema of a catalog is no schema. -/
def defectRecord (target : String) (defect : Schema.Fault) : Log.Record :=
  { source := .validation
    level := .warning
    message := "Catalog input schema is invalid"
    fields := [("entry_id", .str target), ("error", .str defect.message)] }

/-- Looks at whether the input of the step at a path fits the schema of an entry. -/
def checkFit (path targetPath : String) (entry : Catalog.Entry) (input : Json) : Check :=
  match entry.inputSchema, input with
  | some (member :: members), .record fields =>
    let schema := Json.record (member :: members)
    match Schema.defect? schema with
    | .error obstacle => throw obstacle
    | .ok (some defect) => do
      Attempt.tell (defectRecord entry.id defect)
      return [⟨targetPath, .schemaDefective entry.id defect⟩]
    | .ok none => do
      let found ← ExceptT.mk (pure (Schema.violations schema (.record fields)))
      return found.map fun v =>
        ⟨Schema.pathTo (Path.member path "input") v.location, .inputUnfit v.fault⟩
  | _, _ => pure []

/-- Looks at the target of the step at a path. -/
def checkTarget (catalog : Option Catalog) (path : String) (kind : Step.Kind) (fields : Fields) :
    Check :=
  let targetPath := Path.member path kind.targetKey
  match fields.get? kind.targetKey with
  | some (.str target) =>
    if target.isEmpty then pure [⟨targetPath, .targetMissing kind⟩]
    else match catalog with
      | none => pure []
      | some catalog =>
        match catalog.find? kind target with
        | some entry => checkFit path targetPath entry (memberOf "input" fields)
        | none =>
          let available := (catalog.entries kind).map Catalog.Entry.id
          pure [⟨targetPath, .targetUnknown kind target available⟩]
  | _ => pure [⟨targetPath, .targetMissing kind⟩]

/-- The kind of a step in JSON. -/
def kind? (fields : Fields) : Option Step.Kind :=
  ((fields.get? "type").bind Json.text?).bind fun s => Step.kinds.lookup s

/-- Looks at kind and target of the step at a path. -/
def checkKind (catalog : Option Catalog) (path : String) (fields : Fields) : Check :=
  match kind? fields with
  | some kind => checkTarget catalog path kind fields
  | none => pure [⟨Path.member path "type", .stepTypeUnknown⟩]

/-- Looks at the members of the step at a path. -/
def checkStep (catalog : Option Catalog) (path : String) (fields : Fields) : Check := do
  let input := memberOf "input" fields
  let atTarget ← checkKind catalog path fields
  return checkStepId (Path.member path "id") (memberOf "id" fields) ++
    findIf (!isRecord input) (Path.member path "input") .inputNotRecord ++
    atTarget ++
    checkCondition (Path.member path "condition") (memberOf "condition" fields) ++
    findIf (!isDelay (memberOf "delay" fields)) (Path.member path "delay") .delayUnfit ++
    checkRetry (Path.member path "retry") (memberOf "retry" fields) ++
    checkInputTokens (Path.member path "input") input

/-- The id of a step, if it is a text that is not empty. -/
def stepId? (fields : Fields) : Option String :=
  match fields.get? "id" with
  | some (.str id) => if id.isEmpty then none else some id
  | _ => none

/-- The ids of steps, each with the position of the first step that has it. -/
abbrev SeenIds := List (String × Nat)

/-- Looks at whether the id of the step at a position is new. -/
def checkNew (seen : SeenIds) (position : Nat) (fields : Fields) : List Finding × SeenIds :=
  match stepId? fields with
  | none => ([], seen)
  | some id => match seen.lookup id with
    | some first =>
      ([⟨Path.member (Path.item "steps" position) "id", .stepIdDuplicate id first⟩], seen)
    | none => ([], seen ++ [(id, position)])

/-- Looks at the steps from a position on. -/
def checkEachStep (catalog : Option Catalog) (seen : SeenIds) (position : Nat) :
    List Json → Attempt Schema.Obstacle (List Finding × SeenIds)
  | [] => pure ([], seen)
  | step :: rest => do
    let path := Path.item "steps" position
    match step with
    | .record fields =>
      let (duplicate, seen) := checkNew seen position fields
      let found ← checkStep catalog path fields
      let (others, seen) ← checkEachStep catalog seen (position + 1) rest
      return (duplicate ++ found ++ others, seen)
    | _ =>
      let (others, seen) ← checkEachStep catalog seen (position + 1) rest
      return (⟨path, .stepNotRecord⟩ :: others, seen)

/-- The token that was perhaps meant by one that names a missing step. -/
def meantToken? (stepIds : List String) (r : Dependency.Reference) : Option (String × Token) :=
  (StepMatch.find r.target stepIds).candidate.map fun candidate =>
    (candidate, ⟨candidate ++ outputMarker, r.token.field⟩)

/-- The finding for a reference that comes to nothing. -/
def referenceFinding (stepIds : List String) (issue : Dependency.Issue) : Finding :=
  match issue.problem with
  | .unknownStep => ⟨issue.reference.field, .unknownStep issue (meantToken? stepIds issue.reference)⟩
  | _ => ⟨issue.reference.field, .fruitlessReference issue⟩

/-- Looks at the steps and the references between them. -/
def checkSteps (catalog : Option Catalog) (steps : Json) : Check :=
  match steps with
  | .list [] => pure [⟨"steps", .stepsMissing⟩]
  | .list steps => do
    let (found, seen) ← checkEachStep catalog [] 0 steps
    let stepIds := seen.map Prod.fst
    return found ++ (Dependency.analyzeJson steps).map (referenceFinding stepIds)
  | _ => pure [⟨"steps", .stepsNotList⟩]

/-! ## Workflows -/

/-- The note on the outcome of a validation. -/
def validatedRecord (fields : Fields) (r : Report) : Log.Record :=
  { source := .validation
    level := .debug
    message := "Workflow validated"
    fields :=
      [("workflow_id", memberOf "id" fields), ("errors", .nat r.errors.length),
        ("warnings", .nat r.warnings.length)] }

/-- Validates a workflow in JSON. -/
def validate (catalog : Option Catalog) (workflow : Json) : Attempt Schema.Obstacle Report :=
  match workflow with
  | .record fields => do
    let websites := memberOf "websiteConfig" fields
    let inSteps ← checkSteps catalog (memberOf "steps" fields)
    let report : Report :=
      ⟨findIf (!isFilledText (memberOf "name" fields)) "name" .nameMissing ++
        findIf (!isFilledText (memberOf "description" fields)) "description" .descriptionMissing ++
        checkTriggers (memberOf "triggers" fields) ++
        (if websites.isNull then [] else checkWebsites websites) ++ inSteps⟩
    Attempt.tell (validatedRecord fields report)
    return report
  | _ => pure ⟨[⟨"workflow", .notRecord⟩]⟩

/-- Validates a workflow. -/
def validateWorkflow (catalog : Option Catalog) (w : Workflow) : Attempt Schema.Obstacle Report :=
  validate catalog (w.toJson .brief)

end Runbook.Validation
