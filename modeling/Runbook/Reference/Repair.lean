import Runbook.Json.Walk
import Runbook.Log.Basic
import Runbook.Reference.Match
import Runbook.Reference.Output
import Runbook.Token.Scan
import Runbook.Workflow.Basic

/-!
# Repairing references to outputs

Generated workflows often refer to the output of a step under an id that the step did not get in the end.
For every token that names the output of a missing step, the step that was meant is looked for. If it is
found, the token is replaced wherever it stands in that text; if not, the token is listed for review.
-/

namespace Runbook.Repair

/-- What is known about the step that a reference means. -/
inductive Verdict where
  /-- This step is meant. -/
  | corrected (candidate : String)
  /-- One of these steps could be meant. -/
  | ambiguous (candidates : List String)
  /-- No step is like it. -/
  | unmatched
  deriving DecidableEq, Repr

/-- A token that names the output of a missing step, and what to do about it. -/
structure Suggestion where
  /-- The path to the text with the token. -/
  field : String
  token : Token
  /-- The step that is missing. -/
  stepId : String
  verdict : Verdict
  deriving DecidableEq, Repr

namespace Suggestion

/-- The token as it stands in the text. -/
def oldValue (s : Suggestion) : String :=
  s.token.write

/-- The token that it ought to be. -/
def newValue (s : Suggestion) : String :=
  match s.verdict with
  | .corrected candidate => Token.write ⟨candidate ++ outputMarker, s.token.field⟩
  | _ => s.token.write

/-- Was a step found? -/
def isCorrected (s : Suggestion) : Bool :=
  match s.verdict with
  | .corrected _ => true
  | _ => false

/-- Does the suggestion change the text? -/
def applied (s : Suggestion) : Bool :=
  s.oldValue != s.newValue

/-- The words for what was found. -/
def reason (s : Suggestion) : String :=
  match s.verdict with
  | .corrected candidate =>
    s!"Step output reference '{s.stepId}' not found. Auto-corrected to match step '{candidate}'."
  | .ambiguous candidates =>
    let names := ", ".intercalate candidates
    s!"Step output reference '{s.stepId}' not found and it matches several steps ({names}). " ++
      "Please review manually."
  | .unmatched =>
    s!"Step output reference '{s.stepId}' not found and no matching step ID could be determined. " ++
      "Please review manually."

/-- The suggestion written as a record. -/
def toJson (s : Suggestion) : Json :=
  .record
    [("field", .str s.field), ("oldValue", .str s.oldValue), ("newValue", .str s.newValue),
      ("reason", .str s.reason)]

/-- What is reported about the suggestion. -/
def logRecord (s : Suggestion) : Log.Record :=
  match s.verdict with
  | .corrected _ =>
    { source := .repair
      level := .info
      message := "Step output reference repaired"
      fields :=
        [("field", .str s.field), ("old", .str s.oldValue), ("new", .str s.newValue)] }
  | .ambiguous candidates => unrepairable s candidates
  | .unmatched => unrepairable s []
where
  unrepairable (s : Suggestion) (candidates : List String) : Log.Record :=
    { source := .repair
      level := .warning
      message := "Unrepairable step output reference"
      fields :=
        [("field", .str s.field), ("token", .str s.oldValue),
          ("candidates", .list (candidates.map .str))] }

end Suggestion

/-- What is known about a step that is missing. -/
def verdict (stepIds : List String) (stepId : String) : Verdict :=
  match StepMatch.find stepId stepIds with
  | ⟨some candidate, _⟩ => .corrected candidate
  | ⟨none, []⟩ => .unmatched
  | ⟨none, candidates⟩ => .ambiguous candidates

/-- The suggestion about a token, if it names the output of a missing step. -/
def suggest? (stepIds : List String) (field : String) (t : Token) : Option Suggestion :=
  match stepOfOutput? t.dataPointId with
  | some stepId =>
    if stepIds.contains stepId then none
    else some ⟨field, t, stepId, verdict stepIds stepId⟩
  | none => none

/-- The suggestions about the tokens of a text, one for each different token. -/
def suggestions (stepIds : List String) (field text : String) : List Suggestion :=
  (Template.tokens text).eraseDups.filterMap (suggest? stepIds field)

/-- Replaces the tokens of a text for which a step was found, one after the other. -/
def correct (text : String) (suggestions : List Suggestion) : String :=
  String.ofList <| (suggestions.filter Suggestion.isCorrected).foldl
    (fun cs s => Text.replaceAll s.oldValue.toList s.newValue.toList cs) text.toList

/-- Repairs a text. -/
def repairText (stepIds : List String) (field text : String) : String × List Suggestion :=
  let found := suggestions stepIds field text
  (correct text found, found)

/-- Repairs the member `key` of a step, if it is there, by `repair`. -/
def repairMember (key : String) (repair : Json → Json × List Suggestion) (fields : Fields) :
    Fields × List Suggestion :=
  match fields.get? key with
  | some value =>
    let (value, found) := repair value
    (fields.set key value, found)
  | none => (fields, [])

/-- Repairs a condition, if it is a text. -/
def repairCondition (stepIds : List String) (field : String) : Json → Json × List Suggestion
  | .str text =>
    let (text, found) := repairText stepIds field text
    (.str text, found)
  | value => (value, [])

/-- Repairs the input and the condition of the step at a position. -/
def repairStep (stepIds : List String) (position : Nat) : Json → Json × List Suggestion
  | .record fields =>
    let path := Path.item "steps" position
    let (fields, inInput) :=
      repairMember "input" (Json.walk (repairText stepIds) (Path.member path "input")) fields
    let (fields, inCondition) :=
      repairMember "condition" (repairCondition stepIds (Path.member path "condition")) fields
    (.record fields, inInput ++ inCondition)
  | value => (value, [])

/-- Repairs the steps from a position on. -/
def repairSteps (stepIds : List String) (position : Nat) : List Json → List Json × List Suggestion
  | [] => ([], [])
  | step :: rest =>
    let (step, found) := repairStep stepIds position step
    let (steps, more) := repairSteps stepIds (position + 1) rest
    (step :: steps, found ++ more)

/-- The ids of the steps that have a text as their id. -/
def stepIds (steps : List Json) : List String :=
  steps.filterMap fun step => (step.get? "id").bind Json.text?

/-- A repaired workflow and what was found on the way. -/
structure Result (α : Type) where
  workflow : α
  suggestions : List Suggestion

namespace Result

variable {α : Type}

/-- How many tokens were replaced, counted once for each text. -/
def fixedCount (r : Result α) : Nat :=
  (r.suggestions.filter Suggestion.isCorrected).length

/-- Was anything replaced? -/
def repaired (r : Result α) : Bool :=
  0 < r.fixedCount

/-- The report on a repair. -/
def toJson (r : Result α) : Json :=
  .record
    [("repaired", .bool r.repaired), ("fixedCount", .nat r.fixedCount),
      ("suggestions", .list (r.suggestions.map Suggestion.toJson))]

/-- What is reported on the way. -/
def records (r : Result α) : List Log.Record :=
  r.suggestions.map Suggestion.logRecord

end Result

/-- Repairs a workflow in JSON; what has no list of steps stays as it is. -/
def repairJson (workflow : Json) : Result Json :=
  match workflow with
  | .record fields =>
    match Fields.get? "steps" fields with
    | some (.list steps) =>
      let (steps', found) := repairSteps (stepIds steps) 0 steps
      ⟨.record (Fields.set "steps" (.list steps') fields), found⟩
    | _ => ⟨workflow, []⟩
  | _ => ⟨workflow, []⟩

/-- Repairs a workflow: its brief record is repaired and decoded again. -/
def repairWorkflow (now : Int) (w : Workflow) : Except Decode.Rejection (Result Workflow) :=
  let result := repairJson (w.toJson .brief)
  ((Workflow.decode now result.workflow).orReject Workflow.recordName).map fun repaired =>
    ⟨repaired, result.suggestions⟩

end Runbook.Repair
