import Runbook.Json.Basic

/-!
# Completing a draft

What a draft often leaves out is filled in: a trigger, ids for the steps, which websites the workflow is
for (`Draft.complete`); and, once the draft is found valid, what a stored workflow has beside that
(`Draft.withDefaults`). `stamp` is a time in milliseconds, from which ids are made.
-/

namespace Runbook.Draft

/-- Gives a member a value, unless it has one that is accepted. -/
def ensure (key : String) (accepted : Json → Bool) (value : Json) (fields : Fields) : Fields :=
  if (fields.get? key).any accepted then fields else fields.set key value

/-- Is the value a list with at least one item? -/
def isNonEmptyList : Json → Bool
  | .list items => !items.isEmpty
  | _ => false

/-- Is the value a list? -/
def isList : Json → Bool
  | .list _ => true
  | _ => false

/-- Gives the step at a position an id, unless it has one. -/
def completeStep (stamp : Int) (position : Nat) : Json → Json
  | .record fields =>
    .record (ensure "id" Json.isTruthy (.str s!"step_{stamp}_{position}") fields)
  | value => value

/-- Gives the steps of a list ids. -/
def completeSteps (stamp : Int) : Json → Json
  | .list steps => .list (steps.zipIdx.map fun (step, position) => completeStep stamp position step)
  | value => value

/-- The trigger of a workflow that names none. -/
def manualTrigger : Json :=
  .record [("type", .str "manual")]

/-- The websites of a workflow that names none. -/
def allWebsites : Json :=
  .record [("type", .str "all"), ("patterns", .str "")]

/-- Fills in what a draft often leaves out. -/
def complete (stamp : Int) (fields : Fields) : Fields :=
  let fields := ensure "triggers" isNonEmptyList (.list [manualTrigger]) fields
  let fields := ensure "steps" isList (.list []) fields
  let fields := ensure "websiteConfig" Json.isTruthy allWebsites fields
  fields.set "steps" (completeSteps stamp ((fields.get? "steps").getD (.list [])))

/-- The name of a workflow that has none. -/
def untitled : String := "Untitled Workflow"

/-- The version of a workflow that has none. -/
def firstVersion : String := "1.0.0"

/-- Fills in what a stored workflow has. -/
def withDefaults (stamp : Int) (fields : Fields) : Fields :=
  let fields := ensure "id" Json.isTruthy (.str s!"workflow_{stamp}") fields
  let fields := ensure "name" Json.isTruthy (.str untitled) fields
  let fields := ensure "description" Json.isTruthy (.str "") fields
  let fields := ensure "dataPoints" Json.isTruthy (.list []) fields
  let fields := ensure "enabled" (fun _ => true) (.bool true) fields
  let fields := ensure "createdAt" Json.isTruthy (.int stamp) fields
  let fields := ensure "updatedAt" Json.isTruthy (.int stamp) fields
  ensure "version" Json.isTruthy (.str firstVersion) fields

end Runbook.Draft
