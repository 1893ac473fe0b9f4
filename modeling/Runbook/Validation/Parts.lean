import Runbook.Json.Walk
import Runbook.Text.Blank
import Runbook.Token.Placeholder
import Runbook.Token.Scan
import Runbook.Validation.Finding

/-!
# Findings about parts of a workflow

What can be said about the parts of a workflow in JSON, each looked at by itself: about triggers and
websites, and about the members of a step. A check looks at the shapes of values and takes nothing for
granted.
-/

namespace Runbook.Validation

/-- A finding if a condition holds. -/
def findIf (condition : Bool) (field : String) (problem : Problem) : List Finding :=
  if condition then [⟨field, problem⟩] else []

/-- Is the value a text that is not blank? -/
def isFilledText : Json → Bool
  | .str s => !Text.isAllBlank s
  | _ => false

/-- A member of a record, or null. -/
def memberOf (key : String) (fields : Fields) : Json :=
  (fields.get? key).getD .null

/-! ## Tokens -/

/-- The placeholders of a text that are no tokens. -/
def malformedTokens (field text : String) : List Finding :=
  (Placeholder.scan text).filterMap fun p =>
    let placeholder := p.slice text
    if (Token.parse? placeholder).isSome then none
    else some ⟨field, .malformedToken placeholder⟩

/-! ## Triggers and websites -/

/-- The text field that belongs to a kind of trigger. -/
def triggerField? : (type : String) → Option TriggerField
  | "manual" => some .shortcut
  | "onPageLoad" => some .pattern
  | "onSelection" => some .selector
  | _ => none

/-- Is the value neither null nor a text? -/
def isOddText : Json → Bool
  | .null => false
  | .str _ => false
  | _ => true

/-- Looks at the trigger at a path. -/
def checkTrigger (path : String) (trigger : Json) : List Finding :=
  match trigger with
  | .record fields =>
    match Fields.get? "type" fields with
    | some (.str type) =>
      findIf (!triggerTypes.contains type) (Path.member path "type") (.triggerTypeUnknown type) ++
        (match triggerField? type with
          | some field =>
            findIf (isOddText (memberOf field.name fields)) (Path.member path field.name)
              (.triggerFieldNotText field)
          | none => []) ++
        findIf (type == Trigger.Kind.schedule.name && !(memberOf "schedule" fields).isTruthy)
          (Path.member path "schedule") .scheduleMissing
    | _ => [⟨Path.member path "type", .triggerTypeMissing⟩]
  | _ => [⟨Path.member path "type", .triggerTypeMissing⟩]

/-- Looks at the triggers. -/
def checkTriggers (triggers : Json) : List Finding :=
  match triggers with
  | .list (first :: rest) =>
    (first :: rest).zipIdx.flatMap fun (trigger, position) =>
      checkTrigger (Path.item "triggers" position) trigger
  | _ => [⟨"triggers", .triggersMissing⟩]

/-- Looks at which websites are meant. -/
def checkWebsites (websites : Json) : List Finding :=
  let scope := ((websites.get? "type").bind Json.text?).bind fun s => Websites.scopes.lookup s
  match scope with
  | none => [⟨"websiteConfig.type", .websiteTypeUnknown⟩]
  | some .all => []
  | some _ =>
    findIf (!((websites.get? "patterns").getD .null).isTruthy) "websiteConfig.patterns"
      .websitePatternsMissing

/-! ## Members of a step -/

/-- Looks at the id of a step. -/
def checkStepId (path : String) (id : Json) : List Finding :=
  match id with
  | .str s =>
    if s.isEmpty then [⟨path, .stepIdMissing⟩]
    else findIf (!Text.startsWith stepIdStart.toList s.toList) path .stepIdUnusual
  | _ => [⟨path, .stepIdMissing⟩]

/-- Is the value a record? -/
def isRecord : Json → Bool
  | .record _ => true
  | _ => false

/-- Looks at a condition. -/
def checkCondition (path : String) (condition : Json) : List Finding :=
  match condition with
  | .null => []
  | .str text => malformedTokens path text
  | _ => [⟨path, .conditionNotText⟩]

/-- Can the value be a delay? -/
def isDelay : Json → Bool
  | .null => true
  | .int n => 0 ≤ n
  | .float x => !(x < 0.0)
  | _ => false

/-- Looks at a retry rule. -/
def checkRetry (path : String) (retry : Json) : List Finding :=
  match retry with
  | .null => []
  | retry => match Retry.decode retry with
    | .accepted _ => []
    | .rejected issues => [⟨path, .retryUnfit issues.length⟩]

/-- Looks at the tokens in the input of a step. -/
def checkInputTokens (path : String) (input : Json) : List Finding :=
  match input with
  | .record fields =>
    (Json.texts path (.record fields)).flatMap fun (path, text) => malformedTokens path text
  | _ => []

end Runbook.Validation
