import Runbook.Decode.Scalar

/-!
# Decoding records

A field has a name on the wire and may have a second one, under which it is found when the first is not
there. `required` and `optional` decode one field; the issues of a field are located at the name under
which it was found. `extras` are the members that no field took.
-/

namespace Runbook.Decode

open Decoded

/-- The names under which a field is looked for, the first one first. -/
abbrev Names := List String

/-- The first of the names that the record has, with its value. -/
def find (names : Names) (fields : Fields) : Option (String × Json) :=
  names.findSome? fun name => (fields.get? name).map fun json => (name, json)

/-- A field that must be there. -/
def required {α : Type} (names : Names) (decode : Json → Decoded α) (fields : Fields) : Decoded α :=
  match find names fields with
  | some (name, json) => (decode json).within (.key name)
  | none => rejected [⟨(names.take 1).map Part.key, .missing⟩]

/-- A field that has a value of its own when it is absent. -/
def optional {α : Type} (names : Names) (decode : Json → Decoded α) (absent : α) (fields : Fields) :
    Decoded α :=
  match find names fields with
  | some (name, json) => (decode json).within (.key name)
  | none => accepted absent

/-- The members that no field of the record took. -/
def extras (allNames : List Names) (fields : Fields) : Fields :=
  let taken := allNames.filterMap fun names => (find names fields).map Prod.fst
  fields.filter fun field => !taken.contains field.1

/-- A record, decoded from its members. -/
def record {α : Type} (decode : Fields → Decoded α) : Json → Decoded α
  | .record fields => decode fields
  | _ => fault .notRecord

/-- A map from names to values of any kind. -/
def map : Json → Decoded Fields
  | .record fields => accepted fields
  | _ => fault .notMap

/-- Decodes the items of a list from position `start` on. -/
def items {α : Type} (decode : Json → Decoded α) (start : Nat) : List Json → Decoded (List α)
  | [] => accepted []
  | json :: rest =>
    List.cons <$> (decode json).within (.index start) <*> items decode (start + 1) rest

/-- A list. -/
def list {α : Type} (decode : Json → Decoded α) : Json → Decoded (List α)
  | .list jsons => items decode 0 jsons
  | _ => fault .notList

end Runbook.Decode
