import Runbook.Input
import Runbook.Reference.Output
import Runbook.Workflow.Step

/-!
# Dependencies between steps

A step may use the output of a task step that stands before it. `Dependency.analyze` finds the
references to outputs that will come to nothing when the workflow runs: of steps that do not exist, of
steps that have not run yet, and of handlers, which have no output.
-/

namespace Runbook.Dependency

/-- What the analysis looks at in a step. -/
structure StepView where
  id : Option String
  kind : Option String
  input : Json
  condition : Option String

/-- Looks at a step. -/
def StepView.ofStep (s : Step) : StepView :=
  ⟨some s.id, some s.kind.name, .record s.input, s.condition⟩

/-- Looks at a step in JSON; what is no record is no step. -/
def StepView.ofJson? : Json → Option StepView
  | .record fields =>
    some
      { id := (Fields.get? "id" fields).bind Json.text?
        kind := (Fields.get? "type" fields).bind Json.text?
        input := (Fields.get? "input" fields).getD .null
        condition := (Fields.get? "condition" fields).bind Json.text? }
  | _ => none

/-- A use of the output of a step. -/
structure Reference where
  /-- The position of the step that uses the output. -/
  position : Nat
  stepId : Option String
  /-- The path to the text with the token. -/
  field : String
  token : Token
  /-- The step whose output is used. -/
  target : String
  deriving DecidableEq, Repr

/-- The texts of a step that may hold tokens, with the paths to them. -/
def templates (position : Nat) (v : StepView) : List (String × String) :=
  let path := Path.item "steps" position
  v.input.templates (Path.member path "input") ++
    (v.condition.map fun text => (Path.member path "condition", text)).toList

/-- The uses of outputs in one text. -/
def referencesInText (position : Nat) (stepId : Option String) (field text : String) :
    List Reference :=
  (Template.references text).filterMap fun t =>
    (stepOfOutput? t.dataPointId).map fun target => ⟨position, stepId, field, t, target⟩

/-- The uses of outputs in the step at a position, in order. -/
def references (position : Nat) (v : StepView) : List Reference :=
  (templates position v).flatMap fun (field, text) => referencesInText position v.id field text

/-- Why the output of a step comes to nothing. -/
inductive Problem where
  | unknownStep
  | forward
  | handlerOutput
  deriving DecidableEq, Repr

/-- The name of a problem. -/
def Problem.name : Problem → String
  | unknownStep => "unknown_step"
  | forward => "forward"
  | handlerOutput => "handler_output"

/-- A use of an output that comes to nothing. -/
structure Issue where
  reference : Reference
  problem : Problem
  deriving DecidableEq, Repr

/-- The words for an issue. -/
def Issue.message (i : Issue) : String :=
  let target := i.reference.target
  match i.problem with
  | .unknownStep => s!"Token references non-existent step: {target}"
  | .forward => s!"Token references output of step '{target}' which has not run yet at this point"
  | .handlerOutput =>
    s!"Token references output of handler step '{target}'; handlers produce no output"

/-- The first step with an id, and its position. -/
def locate (id : String) (views : List (Option StepView)) : Option (Nat × StepView) :=
  (views.zipIdx.findSome? fun (view, position) =>
    (view.filter fun v => v.id == some id).map fun v => (position, v))

/-- What is wrong with a reference, if anything is. -/
def problem? (views : List (Option StepView)) (r : Reference) : Option Problem :=
  match locate r.target views with
  | none => some .unknownStep
  | some (position, v) =>
    if r.position ≤ position then some .forward
    else if v.kind == some Step.Kind.handler.name then some .handlerOutput
    else none

/-- The references of all steps. -/
def allReferences (views : List (Option StepView)) : List Reference :=
  views.zipIdx.flatMap fun (view, position) => (view.map (references position)).getD []

/-- The references that come to nothing, in order. -/
def analyzeViews (views : List (Option StepView)) : List Issue :=
  (allReferences views).filterMap fun r => (problem? views r).map fun p => ⟨r, p⟩

/-- Analyses the steps of a workflow. -/
def analyze (steps : List Step) : List Issue :=
  analyzeViews (steps.map fun s => some (StepView.ofStep s))

/-- Analyses steps in JSON. -/
def analyzeJson (steps : List Json) : List Issue :=
  analyzeViews (steps.map StepView.ofJson?)

end Runbook.Dependency
