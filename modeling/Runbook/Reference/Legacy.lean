import Runbook.Input
import Runbook.Workflow.Basic

/-!
# References of the older kind

Older workflows refer to a data point by a record in the place of a text. `Legacy.migrate` writes tokens
instead; the value means the same before and after, if no such record is left. `Legacy.Revision.migrate` does so
in a workflow that is decoded.
-/

namespace Runbook.Legacy

mutual

/-- Puts a token in the place of each reference of the older kind in a value. -/
def migrateValue : Json → Json
  | .record fields =>
    match Fields.legacyToken? fields with
    | some t => .str t.write
    | none => .record (migrateFields fields)
  | .list items => .list (migrateItems items)
  | value => value

/-- `migrateValue` for the items of a list. -/
def migrateItems : List Json → List Json
  | [] => []
  | value :: rest => migrateValue value :: migrateItems rest

/-- `migrateValue` for the members of a record. -/
def migrateFields : List (String × Json) → List (String × Json)
  | [] => []
  | (key, value) :: rest => (key, migrateValue value) :: migrateFields rest

end

mutual

/-- Is there a reference of the older kind in a value? -/
def contains : Json → Bool
  | .record fields => (Fields.legacyToken? fields).isSome || fieldsContain fields
  | .list items => itemsContain items
  | _ => false

/-- `contains` for the items of a list. -/
def itemsContain : List Json → Bool
  | [] => false
  | value :: rest => contains value || itemsContain rest

/-- `contains` for the members of a record. -/
def fieldsContain : List (String × Json) → Bool
  | [] => false
  | (_, value) :: rest => contains value || fieldsContain rest

end

/-- Does the input of a step have a reference of the older kind? -/
def stepNeedsMigration (step : Json) : Bool :=
  ((step.get? "input").map contains).getD false

/-- Puts tokens into the input of a step. -/
def migrateStep : Json → Json
  | .record fields =>
    match Fields.get? "input" fields with
    | some input => .record (Fields.set "input" (migrateValue input) fields)
    | none => .record fields
  | value => value

/-- Does the input of one of the steps have a reference of the older kind? -/
def needsMigration (workflow : Json) : Bool :=
  match workflow.get? "steps" with
  | some (.list steps) => steps.any stepNeedsMigration
  | _ => false

/-- Puts tokens into the inputs of all steps; what has no list of steps stays as it is. -/
def migrate (workflow : Json) : Json :=
  match workflow with
  | .record fields =>
    match Fields.get? "steps" fields with
    | some (.list steps) => .record (Fields.set "steps" (.list (steps.map migrateStep)) fields)
    | _ => workflow
  | _ => workflow

/-- A workflow with any values as the inputs of its steps, one for each. A reference of the older kind may be
the whole input of a step, and then becomes a text, which a `Step` has no room for. -/
structure Revision where
  workflow : Workflow
  inputs : List Json

namespace Revision

/-- A workflow with its own inputs. -/
def ofWorkflow (w : Workflow) : Revision :=
  ⟨w, w.steps.map fun s => .record s.input⟩

/-- Does one of the inputs have a reference of the older kind? -/
def needsMigration (r : Revision) : Bool :=
  r.inputs.any contains

/-- Puts tokens into all inputs and leaves the rest of the workflow as it is. -/
def migrate (r : Revision) : Revision :=
  { r with inputs := r.inputs.map migrateValue }

end Revision

end Runbook.Legacy
