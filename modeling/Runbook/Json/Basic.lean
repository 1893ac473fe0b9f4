/-!
# JSON values

The values that workflows are written in and that steps exchange. Numbers come in two kinds that are
never confused: integers of any size and floating-point numbers. A record keeps its members in the order
in which they were written, and paths, findings and printed text follow that order.

`Fields` are the members of a record. `Fields.get?`, `Fields.set` and `Fields.erase` treat them as a
finite map in insertion order: setting a member that is there keeps its place.
-/

namespace Runbook

/-- A JSON value. -/
inductive Json where
  | null
  | bool (value : Bool)
  | int (value : Int)
  | float (value : Float)
  | str (text : String)
  | list (items : List Json)
  | record (fields : List (String × Json))
  deriving Inhabited

/-- The members of a record, in the order in which they were written. -/
abbrev Fields := List (String × Json)

namespace Fields

/-- The value of the member named `key`. -/
def get? (key : String) (fields : Fields) : Option Json :=
  (fields.find? fun field => field.1 == key).map Prod.snd

/-- Is there a member named `key`? -/
def has (key : String) (fields : Fields) : Bool :=
  fields.any fun field => field.1 == key

/-- Gives the member named `key` a value, in its place or else at the end. -/
def set (key : String) (value : Json) (fields : Fields) : Fields :=
  if has key fields then fields.map fun field => if field.1 == key then (key, value) else field
  else fields ++ [(key, value)]

/-- Takes the member named `key` away. -/
def erase (key : String) (fields : Fields) : Fields :=
  fields.filter fun field => field.1 != key

/-- Sets one member after the other, so that of two with one name the later value stays. -/
def ofPairs (pairs : List (String × Json)) : Fields :=
  pairs.foldl (fun fields pair => set pair.1 pair.2 fields) []

/-- Sets all members of `other`. -/
def merge (fields other : Fields) : Fields :=
  other.foldl (fun fields pair => set pair.1 pair.2 fields) fields

end Fields

namespace Json

/-- The member named `key`, if the value is a record that has one. -/
def get? (key : String) : Json → Option Json
  | record fields => Fields.get? key fields
  | _ => none

/-- The text, if the value is one. -/
def text? : Json → Option String
  | str s => some s
  | _ => none

/-- The members, if the value is a record. -/
def fields? : Json → Option Fields
  | record fields => some fields
  | _ => none

/-- The items, if the value is a list. -/
def items? : Json → Option (List Json)
  | list items => some items
  | _ => none

/-- Is the value null? -/
def isNull : Json → Bool
  | null => true
  | _ => false

/-- Does the value say anything? Null, false, zero, and empty texts, lists and records do not. -/
def isTruthy : Json → Bool
  | null => false
  | bool b => b
  | int n => n != 0
  | float x => x != 0.0
  | str s => !s.isEmpty
  | list items => !items.isEmpty
  | record fields => !fields.isEmpty

/-- A text, or null where there is none. -/
def ofText? : Option String → Json
  | some s => str s
  | none => null

/-- A natural number. -/
def nat (n : Nat) : Json :=
  int (Int.ofNat n)

end Json

/-- The member of a record that counts: neither absent nor null. -/
def Fields.present? (key : String) (fields : Fields) : Option Json :=
  (fields.get? key).filter fun value => !value.isNull

end Runbook
