import Runbook.Json.Basic

/-!
# Two forms of written records

A record of the library is written out in full, with null for a field that has no value, or in brief,
without such fields. What is inside a value that a field holds stays as it is in both forms, as far as JSON
has a word for it.
-/

namespace Runbook.Json

/-- How fields without a value are written. -/
inductive Form where
  /-- As null. -/
  | full
  /-- Not at all. -/
  | brief
  deriving DecidableEq, Repr

/-- The members that are written in a form. -/
def Form.fields (form : Form) (members : Fields) : Fields :=
  match form with
  | full => members
  | brief => members.filter fun member => !member.2.isNull

/-- A record in a form. -/
def Form.record (form : Form) (members : Fields) : Json :=
  .record (form.fields members)

mutual

/-- A value as it can be exchanged: JSON has no numerals for infinities and for what is not a number, and
null stands in their place. -/
def exchanged : Json → Json
  | float x => if x.isFinite then float x else null
  | list items => list (exchangedItems items)
  | record fields => record (exchangedFields fields)
  | json => json

/-- Items as they can be exchanged. -/
def exchangedItems : List Json → List Json
  | [] => []
  | item :: items => exchanged item :: exchangedItems items

/-- Members as they can be exchanged. -/
def exchangedFields : List (String × Json) → List (String × Json)
  | [] => []
  | (key, item) :: fields => (key, exchanged item) :: exchangedFields fields

end

/-- A value or null. -/
def ofOption {α : Type} (write : α → Json) : Option α → Json
  | some a => write a
  | none => null

end Runbook.Json
