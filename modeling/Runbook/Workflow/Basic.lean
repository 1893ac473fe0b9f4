import Runbook.DataPoint.Basic
import Runbook.Workflow.Step

/-!
# Workflows

A workflow is a list of steps with what an editor and a host need beside it: triggers, a description, the
websites it is for. Members that the library does not know are kept.
-/

namespace Runbook

/-- On what occasion a workflow is started. -/
inductive Trigger.Kind where
  | manual
  | pageLoad
  | selection
  | focus
  | schedule
  deriving DecidableEq, Repr

/-- An occasion to start a workflow. -/
structure Trigger where
  kind : Trigger.Kind
  pattern : Option String := none
  selector : Option String := none
  schedule : Option String := none
  shortcut : Option String := none
  extras : Fields := []

namespace Trigger

/-- The kinds of triggers under their names. -/
def kinds : List (String × Kind) :=
  [("manual", .manual), ("onPageLoad", .pageLoad), ("onSelection", .selection), ("onFocus", .focus),
    ("schedule", .schedule)]

/-- The name of a kind. -/
def Kind.name : Kind → String
  | manual => "manual"
  | pageLoad => "onPageLoad"
  | selection => "onSelection"
  | focus => "onFocus"
  | schedule => "schedule"

/-- The names of the fields. -/
def fieldNames : List Decode.Names :=
  [["type"], ["pattern"], ["selector"], ["schedule"], ["shortcut"]]

open Decode in
/-- Decodes the members of a trigger. -/
def decodeFields (fields : Fields) : Decoded Trigger :=
  Trigger.mk
    <$> required ["type"] (oneOf kinds .notLiteral) fields
    <*> optional ["pattern"] (nullable text) none fields
    <*> optional ["selector"] (nullable text) none fields
    <*> optional ["schedule"] (nullable text) none fields
    <*> optional ["shortcut"] (nullable text) none fields
    <*> pure (Decode.extras fieldNames fields)

/-- Decodes a trigger. -/
def decode : Json → Decode.Decoded Trigger :=
  Decode.record decodeFields

/-- The name under which triggers are expected. -/
def recordName : String := "WorkflowTrigger"

/-- A trigger written as a record. -/
def toJson (form : Json.Form) (t : Trigger) : Json :=
  (form.record
    ([("type", .str t.kind.name), ("pattern", Json.ofText? t.pattern),
      ("selector", Json.ofText? t.selector), ("schedule", Json.ofText? t.schedule),
      ("shortcut", Json.ofText? t.shortcut)] ++ t.extras)).exchanged

end Trigger

/-- Which websites a workflow is for, in relation to its patterns. -/
inductive Websites.Scope where
  | all
  | specific
  | exclude
  deriving DecidableEq, Repr

/-- The websites that a workflow is for. -/
structure Websites where
  scope : Websites.Scope := .all
  patterns : String := ""
  deriving DecidableEq

namespace Websites

/-- The scopes under their names. -/
def scopes : List (String × Scope) :=
  [("all", .all), ("specific", .specific), ("exclude", .exclude)]

/-- The name of a scope. -/
def Scope.name : Scope → String
  | all => "all"
  | specific => "specific"
  | exclude => "exclude"

open Decode in
/-- Decodes the members that say which websites are meant. -/
def decodeFields (fields : Fields) : Decoded Websites :=
  Websites.mk
    <$> optional ["type"] (oneOf scopes .notLiteral) .all fields
    <*> optional ["patterns"] text "" fields

/-- Decodes which websites are meant. -/
def decode : Json → Decode.Decoded Websites :=
  Decode.record decodeFields

/-- The name under which this record is expected. -/
def recordName : String := "WebsiteConfig"

/-- Which websites are meant, written as a record. -/
def toJson (w : Websites) : Json :=
  .record [("type", .str w.scope.name), ("patterns", .str w.patterns)]

end Websites

/-- A workflow as it is stored and exchanged. -/
structure Workflow where
  id : Option String := none
  name : String := ""
  description : String := ""
  steps : List Step := []
  triggers : List Trigger := []
  dataPoints : List DataPoint := []
  enabled : Bool := true
  /-- In milliseconds. -/
  createdAt : Int
  /-- In milliseconds. -/
  updatedAt : Int
  version : String := "1.0.0"
  websites : Option Websites := none
  /-- Members that are kept without a meaning. -/
  extras : Fields := []

namespace Workflow

/-- The names of the fields. -/
def fieldNames : List Decode.Names :=
  [["id"], ["name"], ["description"], ["steps"], ["triggers"], ["dataPoints", "data_points"],
    ["enabled"], ["createdAt", "created_at"], ["updatedAt", "updated_at"], ["version"],
    ["websiteConfig", "website_config"]]

open Decode in
/-- Decodes the members of a workflow; a time that is not given is `now`. -/
def decodeFields (now : Int) (fields : Fields) : Decoded Workflow :=
  Workflow.mk
    <$> optional ["id"] (nullable text) none fields
    <*> optional ["name"] text "" fields
    <*> optional ["description"] text "" fields
    <*> optional ["steps"] (list Step.decode) [] fields
    <*> optional ["triggers"] (list Trigger.decode) [] fields
    <*> optional ["dataPoints", "data_points"] (list (DataPoint.decode now)) [] fields
    <*> optional ["enabled"] truth true fields
    <*> optional ["createdAt", "created_at"] integer now fields
    <*> optional ["updatedAt", "updated_at"] integer now fields
    <*> optional ["version"] text "1.0.0" fields
    <*> optional ["websiteConfig", "website_config"] (nullable Websites.decode) none fields
    <*> pure (Decode.extras fieldNames fields)

/-- Decodes a workflow. -/
def decode (now : Int) : Json → Decode.Decoded Workflow :=
  Decode.record (decodeFields now)

/-- The name under which workflows are expected. -/
def recordName : String := "Workflow"

/-- A workflow written as a record. -/
def toJson (form : Json.Form) (w : Workflow) : Json :=
  let members : Fields :=
    [("id", Json.ofText? w.id), ("name", .str w.name), ("description", .str w.description),
      ("steps", .list (w.steps.map (Step.toJson form))),
      ("triggers", .list (w.triggers.map (Trigger.toJson form))),
      ("dataPoints", .list (w.dataPoints.map (DataPoint.toJson form))), ("enabled", .bool w.enabled),
      ("createdAt", .int w.createdAt), ("updatedAt", .int w.updatedAt), ("version", .str w.version),
      ("websiteConfig", Json.ofOption Websites.toJson w.websites)]
  .record (form.fields members ++ Json.exchangedFields (form.fields w.extras))

end Workflow

end Runbook
