import Runbook.DataPoint.Basic
import Runbook.Log.Basic

/-!
# Data points from the context

A host gathers the context of a run as a list of records. A record that does not decode is passed over with
a warning; a value that is no record at all spoils the list.
-/

namespace Runbook.Context

/-- One item of a gathered context: a data point, or a value that should be the record of one. -/
inductive Item where
  | ready (point : DataPoint)
  | raw (value : Json)

/-- What a host gathered: a list of items, or a value that is no list. -/
inductive Gathered where
  | items (items : List Item)
  | value (json : Json)

/-- A gathered value in JSON. -/
def Gathered.ofJson : Json → Gathered
  | .list jsons => items (jsons.map .raw)
  | json => value json

/-- Why no data points can be made of a context. -/
inductive Error where
  /-- What was gathered cannot be gone through. -/
  | notList
  /-- One of the items is no record. -/
  | itemNotRecord
  deriving DecidableEq, Repr

/-- The warning about a record that does not decode. -/
def skippedRecord (fields : Fields) (issueCount : Nat) : Log.Record :=
  { source := .dataPoints
    level := .warning
    message := "Context record is not a valid data point; skipping"
    fields := [("record_id", (fields.get? "id").getD .null), ("errors", .nat issueCount)] }

/-- The data point of an item, or nothing if it is passed over. -/
def decodeItem (now : Int) : Item → Attempt Error (Option DataPoint)
  | .ready p => pure (some p)
  | .raw (.record fields) =>
    match DataPoint.decodeFields now fields with
    | .accepted p => pure (some p)
    | .rejected issues => do
      Attempt.tell (skippedRecord fields issues.length)
      return none
  | .raw _ => throw .itemNotRecord

/-- The data points of a list of items. -/
def collectItems (now : Int) : List Item → Attempt Error (List DataPoint)
  | [] => pure []
  | item :: rest => do
    let p ← decodeItem now item
    let ps ← collectItems now rest
    return p.toList ++ ps

/-- The data points of a gathered context. A text or record in the place of a list stands for what it is
made of, which is no record. -/
def collect (now : Int) : Gathered → Attempt Error (List DataPoint)
  | .items items => collectItems now items
  | .value (.str s) => if s.isEmpty then pure [] else throw .itemNotRecord
  | .value (.record fields) => if fields.isEmpty then pure [] else throw .itemNotRecord
  | .value _ => throw .notList

end Runbook.Context
