import Runbook.Decode.Record
import Runbook.Json.Form

/-!
# Data points

A data point is a named value that the tokens of a workflow can refer to by its id. It comes from the
host, from the knowledge base, or from a task step that ran earlier.
-/

namespace Runbook

/-- Where the value of a data point comes from. -/
inductive DataPoint.Kind where
  | context
  | taskOutput
  | static
  deriving DecidableEq, Repr

/-- A named value. -/
structure DataPoint where
  id : String
  name : String := ""
  kind : DataPoint.Kind := .context
  value : Json := .null
  /-- Who supplied the value: a provider, the knowledge base, or a step. -/
  source : String := ""
  /-- When, in milliseconds. -/
  timestamp : Int

namespace DataPoint

/-- The kinds of data points under their names. -/
def kinds : List (String × Kind) :=
  [("context", .context), ("task_output", .taskOutput), ("static", .static)]

/-- The name of a kind. -/
def Kind.name : Kind → String
  | context => "context"
  | taskOutput => "task_output"
  | static => "static"

open Decode in
/-- Decodes the members of a data point; one without a timestamp is from `now`. -/
def decodeFields (now : Int) (fields : Fields) : Decoded DataPoint :=
  DataPoint.mk
    <$> required ["id"] nonEmptyText fields
    <*> optional ["name"] text "" fields
    <*> optional ["type"] (oneOf kinds .notMember) .context fields
    <*> optional ["value"] anything .null fields
    <*> optional ["source"] text "" fields
    <*> optional ["timestamp"] integer now fields

/-- Decodes a data point. -/
def decode (now : Int) : Json → Decode.Decoded DataPoint :=
  Decode.record (decodeFields now)

/-- The name under which data points are expected. -/
def recordName : String := "DataPoint"

/-- A data point written as a record. -/
def toJson (form : Json.Form) (p : DataPoint) : Json :=
  (form.record
    [("id", .str p.id), ("name", .str p.name), ("type", .str p.kind.name), ("value", p.value),
      ("source", .str p.source), ("timestamp", .int p.timestamp)]).exchanged

/-- The data point that holds the output of a task step. -/
def ofTaskOutput (now : Int) (stepId : String) (value : Json) : DataPoint :=
  { id := s!"{stepId}_output"
    name := s!"Output of {stepId}"
    kind := .taskOutput
    value := value
    source := stepId
    timestamp := now }

end DataPoint

end Runbook
