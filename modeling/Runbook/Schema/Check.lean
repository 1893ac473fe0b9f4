import Runbook.Schema.Keyword
import Runbook.Text.Digit
import Runbook.Text.Path
import Runbook.Text.Substring
import Runbook.Text.Utf8

/-!
# Checking values against schemas

A schema is a record of keywords, whose demands are checked in the order in which they are written, or one
of the values `true` and `false`, which everything and nothing fits. References lead to other places in the
same schema. `Schema.check` applies a schema to a value.
-/

namespace Runbook.Schema

/-! ## References -/

/-- The byte that two hexadecimal digits write. -/
def hexByte? (a b : Char) : Option UInt8 :=
  (Text.ofHexDigits? [a, b]).map UInt8.ofNat

/-- The bytes that percent signs with two hexadecimal digits stand for at the front of a text, and what
follows them. -/
def percentBytes : List Char → List UInt8 × List Char
  | '%' :: a :: b :: rest =>
    match hexByte? a b with
    | some byte =>
      let (bytes, rest) := percentBytes rest
      (byte :: bytes, rest)
    | none => ([], '%' :: a :: b :: rest)
  | rest => ([], rest)

/-- A text with the characters in the place of the bytes that percent signs stand for. -/
def percentDecoded : (fuel : Nat) → List Char → List Char
  | 0, cs => cs
  | fuel + 1, cs =>
    match percentBytes cs with
    | ([], []) => []
    | ([], c :: rest) => c :: percentDecoded fuel rest
    | (bytes, rest) => Text.decodeLossy bytes ++ percentDecoded fuel rest

/-- A step of a pointer, in which `~1` stands for a slash and `~0` for a tilde. -/
def unescapeStep (cs : List Char) : String :=
  String.ofList (Text.replaceAll ['~', '0'] ['~'] (Text.replaceAll ['~', '1'] ['/'] cs))

/-- The item at a position, which counts from the end if it is negative. -/
def itemAt? {α : Type} (items : List α) (position : Int) : Option α :=
  if 0 ≤ position then items[position.toNat]?
  else if -position ≤ items.length then items[items.length - (-position).toNat]?
  else none

/-- Follows one step of a pointer. There may be nothing where it leads. -/
def followStep (cs : List Char) (json : Json) : Except Obstacle (Option Json) :=
  let position : Except Obstacle Int := match Text.integer? cs with
    | some n => .ok n
    | none => .error (.noPosition (String.ofList cs))
  match json with
  | .record fields => .ok (Fields.get? (unescapeStep cs) fields)
  | .list items => position.map (itemAt? items)
  | .str s => position.map fun n => (itemAt? s.toList n).map fun c => .str (String.ofList [c])
  | _ => .error .noParts

/-- Keywords whose argument is a schema. -/
def schemaKeywords : List String :=
  ["additionalProperties", "contains", "contentSchema", "else", "if", "items", "not", "propertyNames",
    "then", "unevaluatedItems", "unevaluatedProperties"]

/-- Keywords whose argument holds schemas. -/
def schemaHolders : List String :=
  ["allOf", "anyOf", "oneOf", "prefixItems", "$defs", "definitions", "dependentSchemas",
    "patternProperties", "properties"]

/-- Do the steps lead from a schema to a place that is meant for a schema? -/
def leadsToSchema : List String → Bool
  | [] => true
  | [step] => schemaKeywords.contains step
  | step :: next :: steps =>
    if schemaKeywords.contains step then leadsToSchema (next :: steps)
    else schemaHolders.contains step && leadsToSchema steps

/-- Can the value stand where a schema is meant to be? -/
def isSchemaLike : Json → Bool
  | .record _ => true
  | .bool _ => true
  | _ => false

/-- Can a value be applied as a schema? A text or a list can at least be asked for a dialect, which it
cannot have; other values cannot even be asked. -/
def applicable (json : Json) : Except Obstacle Json :=
  match json with
  | .str s => .error (if Text.containsPart "$schema".toList s.toList then .notLegible else .notApplicable)
  | .list items => .error (if items.any (same (.str "$schema")) then .notLegible else .notApplicable)
  | json => if isSchemaLike json then .ok json else .error .notLegible

/-- Follows a pointer, of which some steps have been followed already. -/
def follow (reference : String) (done : List String) :
    (steps : List (List Char)) → Json → Except Obstacle Json
  | [], json => applicable json
  | step :: steps, json => do
    match ← followStep step json with
    | none => .error (.unresolvable reference)
    | some next =>
      let done := done ++ [match json with
        | .record _ => unescapeStep step
        | _ => ""]
      if leadsToSchema done && !isSchemaLike next then .error .notApplicable
      else follow reference done steps next

/-- The schema that a reference names inside a schema. -/
def resolve (root : Json) (reference : String) : Except Obstacle Json :=
  match reference.toList with
  | [] => .ok root
  | ['#'] => .ok root
  | '#' :: '/' :: pointer =>
    follow reference [] (Text.splitOn '/' (percentDecoded (pointer.length + 1) pointer)) root
  | _ => .error (.unresolvable reference)

/-! ## Sizes -/

mutual

/-- How many values there are in a value, itself included. -/
def count : Json → Nat
  | .list items => countItems items + 1
  | .record fields => countFields fields + 1
  | _ => 1

/-- How many values there are in a list of values. -/
def countItems : List Json → Nat
  | [] => 0
  | json :: rest => count json + countItems rest

/-- How many values there are in the members of a record. -/
def countFields : List (String × Json) → Nat
  | [] => 0
  | (_, json) :: rest => count json + countFields rest

end

mutual

/-- How many levels a value has. -/
def depth : Json → Nat
  | .list items => depthItems items + 1
  | .record fields => depthFields fields + 1
  | _ => 1

/-- How many levels the deepest of some values has. -/
def depthItems : List Json → Nat
  | [] => 0
  | json :: rest => max (depth json) (depthItems rest)

/-- How many levels the deepest member of a record has. -/
def depthFields : List (String × Json) → Nat
  | [] => 0
  | (_, json) :: rest => max (depth json) (depthFields rest)

end

/-! ## The check -/

/-- What stays the same throughout a check. -/
structure Rules where
  /-- The schema to which references lead. -/
  root : Json
  /-- Does a text have a format? -/
  hasFormat : (format text : String) → Except Obstacle Bool := fun _ _ => .ok true

/-- Applies a schema to a value. The fuel bounds the number of schemas applied inside each other. -/
def checkWithin (rules : Rules) : (fuel : Nat) → (schema value : Json) → Verdict
  | 0, _, _ => ⟨[], some .endless⟩
  | fuel + 1, schema, value =>
    match schema with
    | .bool false => .fault (.nothingFits value)
    | .record fields =>
      let context : Context :=
        { schema := fields
          check := checkWithin rules fuel
          resolve := resolve rules.root
          hasFormat := rules.hasFormat }
      .all (fields.map fun (name, argument) => checkKeyword context name argument value)
    | _ => .valid

/-- Applies the root of the rules to a value. A check that comes to an end applies each part of the schema
once at most to any part of the value without going deeper into it, so the fuel is enough. -/
def check (rules : Rules) (value : Json) : Verdict :=
  checkWithin rules ((count rules.root + 1) * (depth value + 1)) rules.root value

/-!
## The violations of a value in order

Violations are listed by the places where they lie. Places are compared step by step, each step by its
text, so that position 10 comes before position 2; of one place, violations keep the order in which they
were found.
-/

open Decode (Part)

/-- A step as text. -/
def stepText : Part → String
  | .key name => name
  | .index position => toString position

/-- Does one list of texts come before another, or are they the same? -/
def notAfter : List String → List String → Bool
  | [], _ => true
  | _ :: _, [] => false
  | a :: as, b :: bs => if a = b then notAfter as bs else a < b

/-- Does one violation come before another, or do they lie in one place? -/
def Violation.notAfter (a b : Violation) : Bool :=
  Schema.notAfter (a.location.map stepText) (b.location.map stepText)

/-- The path to a place inside the value at `path`. -/
def pathTo (path : String) (location : List Part) : String :=
  location.foldl
    (fun path step => match step with
      | .key name => Path.member path name
      | .index position => Path.item path position)
    path

/-- The violations of a value under a schema, in order. -/
def violations (schema value : Json) : Except Obstacle (List Violation) :=
  ((check { root := schema } value).complete).map fun found => found.mergeSort Violation.notAfter

end Runbook.Schema
