import Runbook.Text.Path
import Runbook.Token.Resolve

/-!
# Step inputs

The input of a step is a JSON value in which texts may hold tokens. `Input.classify` tells texts with
tokens from all other values. Older workflows write a token as a record, `{"type": "data_point",
"dataPointId": …, "field": …}`; such a record is a text with that token.

An input is resolved leaf by leaf (`Input.resolve`), and its texts with tokens are listed with the paths
to them (`Input.templates`).
-/

namespace Runbook

/-- An input, its texts with tokens told from other values. -/
inductive Input where
  /-- A value without tokens. -/
  | literal (value : Json)
  /-- A text with at least one token, as far as it does not come from an older reference. -/
  | template (text : String)
  | record (fields : List (String × Input))
  | list (items : List Input)

/-- The token that a reference of the older kind stands for; nothing if the members are no such reference. -/
def Fields.legacyToken? (fields : Fields) : Option Token :=
  match fields.get? "type", fields.get? "dataPointId" with
  | some (.str "data_point"), some (.str id) => some ⟨id, (fields.get? "field").bind Json.text?⟩
  | _, _ => none

/-- Is the value a reference of the older kind? -/
def Json.isLegacyReference : Json → Bool
  | record fields => (Fields.legacyToken? fields).isSome
  | _ => false

namespace Input

mutual

/-- Tells the texts with tokens in a value from all else. -/
def classify : Json → Input
  | .str text => if Template.hasTokens text then template text else literal (.str text)
  | .record fields =>
    match Fields.legacyToken? fields with
    | some t => template t.write
    | none => record (classifyFields fields)
  | .list items => list (classifyItems items)
  | value => literal value

/-- `classify` for the items of a list. -/
def classifyItems : List Json → List Input
  | [] => []
  | value :: rest => classify value :: classifyItems rest

/-- `classify` for the members of a record. -/
def classifyFields : List (String × Json) → List (String × Input)
  | [] => []
  | (key, value) :: rest => (key, classify value) :: classifyFields rest

end

mutual

/-- The value with the tokens of every text resolved. -/
def resolve (s : Store) : Input → Attempt Token.RenderError Json
  | literal value => pure value
  | template text => do return .str (← s.resolveText text)
  | record fields => do return .record (← resolveFields s fields)
  | list items => do return .list (← resolveItems s items)

/-- `resolve` for the items of a list. -/
def resolveItems (s : Store) : List Input → Attempt Token.RenderError (List Json)
  | [] => pure []
  | value :: rest => do
    let value ← resolve s value
    return value :: (← resolveItems s rest)

/-- `resolve` for the members of a record. -/
def resolveFields (s : Store) :
    List (String × Input) → Attempt Token.RenderError (List (String × Json))
  | [] => pure []
  | (key, value) :: rest => do
    let value ← resolve s value
    return (key, value) :: (← resolveFields s rest)

end

mutual

/-- The texts with tokens and the paths to them, in order. -/
def templates (path : String) : Input → List (String × String)
  | literal _ => []
  | template text => [(path, text)]
  | record fields => fieldTemplates path fields
  | list items => itemTemplates path 0 items

/-- `templates` for the items of a list from a position on. -/
def itemTemplates (path : String) (position : Nat) : List Input → List (String × String)
  | [] => []
  | value :: rest =>
    templates (Path.item path position) value ++ itemTemplates path (position + 1) rest

/-- `templates` for the members of a record. -/
def fieldTemplates (path : String) : List (String × Input) → List (String × String)
  | [] => []
  | (key, value) :: rest => templates (Path.member path key) value ++ fieldTemplates path rest

end

end Input

/-- The value with the tokens of every text resolved. -/
def Json.resolve (s : Store) (value : Json) : Attempt Token.RenderError Json :=
  (Input.classify value).resolve s

/-- The texts with tokens in a value and the paths to them. -/
def Json.templates (path : String) (value : Json) : List (String × String) :=
  (Input.classify value).templates path

end Runbook
