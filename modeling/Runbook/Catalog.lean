import Runbook.Json.Form
import Runbook.Workflow.Step

/-!
# Catalogs

A catalog lists the tasks and handlers that a host can be sent to, each with a schema for its input or
without one.
-/

namespace Runbook

/-- A task or handler of a host. -/
structure Catalog.Entry where
  id : String
  name : String := ""
  description : String := ""
  inputSchema : Option Fields := none

/-- The tasks and handlers of a host. -/
structure Catalog where
  tasks : List Catalog.Entry := []
  handlers : List Catalog.Entry := []

namespace Catalog

open Decode in
/-- Decodes the members of an entry. -/
def Entry.decodeFields (fields : Fields) : Decoded Entry :=
  Entry.mk
    <$> required ["id"] text fields
    <*> optional ["name"] text "" fields
    <*> optional ["description"] text "" fields
    <*> optional ["inputSchema", "input_schema"] (nullable map) none fields

/-- Decodes an entry. -/
def Entry.decode : Json → Decode.Decoded Entry :=
  Decode.record Entry.decodeFields

/-- An entry written as a record. -/
def Entry.toJson (form : Json.Form) (e : Entry) : Json :=
  (form.record
    [("id", .str e.id), ("name", .str e.name), ("description", .str e.description),
      ("inputSchema", Json.ofOption .record e.inputSchema)]).exchanged

open Decode in
/-- Decodes the members of a catalog. -/
def decodeFields (fields : Fields) : Decoded Catalog :=
  Catalog.mk
    <$> optional ["tasks"] (list Entry.decode) [] fields
    <*> optional ["handlers"] (list Entry.decode) [] fields

/-- Decodes a catalog. -/
def decode : Json → Decode.Decoded Catalog :=
  Decode.record decodeFields

/-- The name under which catalogs are expected. -/
def recordName : String := "StepCatalog"

/-- A catalog written as a record. -/
def toJson (form : Json.Form) (c : Catalog) : Json :=
  .record
    [("tasks", .list (c.tasks.map (Entry.toJson form))),
      ("handlers", .list (c.handlers.map (Entry.toJson form)))]

/-- The entries for a kind of step. -/
def entries (c : Catalog) : Step.Kind → List Entry
  | .task => c.tasks
  | .handler => c.handlers

/-- The first entry with an id. -/
def find? (c : Catalog) (kind : Step.Kind) (id : String) : Option Entry :=
  (c.entries kind).find? fun e => e.id == id

end Catalog

end Runbook
