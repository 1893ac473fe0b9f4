import Runbook.Reference.Dependency
import Runbook.Schema.Violation
import Runbook.Workflow.Basic

/-!
# Findings about workflows

A finding is a problem at a place in a workflow. Errors keep a workflow from being run; warnings do not.
A report holds all findings on a workflow, which is valid if none of them is an error.
-/

namespace Runbook.Validation

/-- A text field that belongs to one kind of trigger. -/
inductive TriggerField where
  | shortcut
  | pattern
  | selector
  deriving DecidableEq, Repr

/-- The name of the field. -/
def TriggerField.name : TriggerField → String
  | shortcut => "shortcut"
  | pattern => "pattern"
  | selector => "selector"

/-- The name of the field at the start of a sentence. -/
def TriggerField.title : TriggerField → String
  | shortcut => "Shortcut"
  | pattern => "Pattern"
  | selector => "Selector"

/-- The word for a kind of step at the start of a sentence. -/
def kindTitle : Step.Kind → String
  | .task => "Task"
  | .handler => "Handler"

/-- What can be wrong with a workflow. -/
inductive Problem where
  | notRecord
  | nameMissing
  | descriptionMissing
  | triggersMissing
  | triggerTypeMissing
  | triggerTypeUnknown (name : String)
  | triggerFieldNotText (field : TriggerField)
  | scheduleMissing
  | websiteTypeUnknown
  | websitePatternsMissing
  | stepsNotList
  | stepsMissing
  | stepNotRecord
  | stepIdMissing
  /-- Another step, at position `first`, has the same id. -/
  | stepIdDuplicate (id : String) (first : Nat)
  | stepIdUnusual
  | inputNotRecord
  | stepTypeUnknown
  | targetMissing (kind : Step.Kind)
  | targetUnknown (kind : Step.Kind) (target : String) (available : List String)
  | schemaDefective (target : String) (defect : Schema.Fault)
  | inputUnfit (fault : Schema.Fault)
  | conditionNotText
  | malformedToken (placeholder : String)
  | delayUnfit
  | retryUnfit (count : Nat)
  /-- The output of a step is used that does not exist; `meant` is the token that was perhaps meant, and
  the step that it refers to. -/
  | unknownStep (issue : Dependency.Issue) (meant : Option (String × Token))
  | fruitlessReference (issue : Dependency.Issue)

/-- What a step id should start with. -/
def stepIdStart : String := "step_"

/-- The kinds of triggers. -/
def triggerTypes : List String :=
  Trigger.kinds.map Prod.fst

/-- The hint at the token that was perhaps meant. -/
def hint : Option (String × Token) → String
  | some (candidate, token) => s!" Did you mean: {candidate}? Expected format: {token.write}"
  | none => ""

namespace Problem

/-- The words for a problem. -/
def message : Problem → String
  | notRecord => "Workflow must be an object"
  | nameMissing => "Workflow name is required and must be a string"
  | descriptionMissing => "Workflow description is recommended"
  | triggersMissing => "At least one trigger is required"
  | triggerTypeMissing => "Trigger type is required"
  | triggerTypeUnknown name =>
    s!"Invalid trigger type '{name}'. Must be one of: {Schema.commaList triggerTypes}"
  | triggerFieldNotText field => s!"{field.title} must be a string"
  | scheduleMissing => "Schedule trigger should have a schedule field"
  | websiteTypeUnknown => "Website config type must be 'all', 'specific', or 'exclude'"
  | websitePatternsMissing => "Patterns should be provided for specific/exclude types"
  | stepsNotList => "Steps must be an array"
  | stepsMissing => "Workflow has no steps"
  | stepNotRecord => "Step must be an object"
  | stepIdMissing => "Step ID is required and must be a string"
  | stepIdDuplicate id first => s!"Duplicate step ID '{id}' (also used by steps[{first}])"
  | stepIdUnusual => s!"Step ID should start with '{stepIdStart}'"
  | inputNotRecord => "Step input must be an object"
  | stepTypeUnknown => "Step type must be 'task' or 'handler'"
  | targetMissing kind => s!"{kindTitle kind} step must have a {kind.targetKey}"
  | targetUnknown kind target available =>
    s!"{kindTitle kind} '{target}' not found. Available: {Schema.commaList available}"
  | schemaDefective target defect => s!"Input schema for '{target}' is invalid: {defect.message}"
  | inputUnfit fault => fault.message
  | conditionNotText => "Condition must be a string"
  | malformedToken placeholder => s!"Invalid token syntax: {placeholder}"
  | delayUnfit => "Delay must be a non-negative number"
  | retryUnfit count => s!"Invalid retry configuration: {count} error(s)"
  | unknownStep issue meant => issue.message ++ hint meant
  | fruitlessReference issue => issue.message

/-- Does the problem keep the workflow from being run? -/
def isError : Problem → Bool
  | descriptionMissing => false
  | scheduleMissing => false
  | websitePatternsMissing => false
  | stepsMissing => false
  | stepIdUnusual => false
  | schemaDefective _ _ => false
  | fruitlessReference _ => false
  | _ => true

end Problem

/-- A problem and the path to the place where it lies. -/
structure Finding where
  field : String
  problem : Problem

/-- A finding written as a record. -/
def Finding.toJson (f : Finding) : Json :=
  .record
    [("field", .str f.field), ("message", .str f.problem.message),
      ("level", .str (if f.problem.isError then "error" else "warning"))]

/-- All findings on a workflow, in the order in which they were made. -/
structure Report where
  findings : List Finding

namespace Report

/-- The findings that are errors. -/
def errors (r : Report) : List Finding :=
  r.findings.filter fun f => f.problem.isError

/-- The findings that are warnings. -/
def warnings (r : Report) : List Finding :=
  r.findings.filter fun f => !f.problem.isError

/-- Is the workflow free of errors? -/
def isValid (r : Report) : Bool :=
  r.errors.isEmpty

/-- A report written as a record. -/
def toJson (r : Report) : Json :=
  .record
    [("valid", .bool r.isValid), ("errors", .list (r.errors.map Finding.toJson)),
      ("warnings", .list (r.warnings.map Finding.toJson))]

end Report

end Runbook.Validation
