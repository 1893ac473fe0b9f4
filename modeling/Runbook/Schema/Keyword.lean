import Runbook.Pattern.Match
import Runbook.Pattern.Reader
import Runbook.Schema.Order
import Runbook.Schema.Violation

/-!
# The keywords of schemas

Each keyword of a schema is a demand on a value. A demand that concerns one kind of value is met by all
values of other kinds. Keywords that apply further schemas do so through `Context.check`.
-/

namespace Runbook.Schema

open Decode (Part)
open Verdict

/-- What a keyword may refer to besides its argument and the value. -/
structure Context where
  /-- The members of the schema in which the keyword stands. -/
  schema : Fields
  /-- Applies a schema to a value. -/
  check : Json → Json → Verdict
  /-- The schema at the place that a reference names. -/
  resolve : String → Except Obstacle Json
  /-- Does a text have a format? -/
  hasFormat : (format text : String) → Except Obstacle Bool

namespace Context

/-- Applies a schema to a part of the value. That nothing fits is held against the whole. -/
def checkPart (c : Context) (part : Part) (schema value : Json) : Verdict :=
  match schema with
  | .bool false => c.check schema value
  | schema => (c.check schema value).within part

/-- Is a value valid under a schema? -/
def accepts (c : Context) (schema value : Json) : Except Obstacle Bool :=
  (c.check schema value).isValid

end Context

/-- Is a value of the type with this name? -/
def isType (name : String) : Json → Bool
  | .null => name == "null"
  | .bool _ => name == "boolean"
  | .int _ => name == "integer" || name == "number"
  | .float x => name == "number" || (name == "integer" && (Decimal.toInt? x).isSome)
  | .str _ => name == "string"
  | .list _ => name == "array"
  | .record _ => name == "object"

/-- Are both values numbers, and do they stand in this relation? -/
def related (relation : Magnitude → Magnitude → Bool) (a b : Json) : Bool :=
  match Magnitude.ofJson? a, Magnitude.ofJson? b with
  | some a, some b => relation a b
  | _, _ => false

/-- Is the first of two numbers less? -/
def below : Json → Json → Bool :=
  related Magnitude.less

/-- Is the first of two numbers less, or are both the same? -/
def notAbove : Json → Json → Bool :=
  related Magnitude.atMost

/-- A list of schemas or of other values. -/
def listOf : Json → List Json
  | .list items => items
  | _ => []

/-- The members of a record. -/
def membersOf : Json → Fields
  | .record fields => fields
  | _ => []

/-- The texts in a list. -/
def textsOf (json : Json) : List String :=
  (listOf json).filterMap Json.text?

/-! ## Demands on values of any kind -/

/-- The value has one of the types. -/
def checkType (argument value : Json) : Verdict :=
  let types := match argument with
    | .str name => [name]
    | argument => textsOf argument
  faultIf (!types.any fun name => isType name value) (.wrongType value types)

/-- The value is one of those in a list. -/
def checkEnum (argument value : Json) : Verdict :=
  faultIf (!(listOf argument).any (same value)) (.notListed value (listOf argument))

/-- The value is the one that is given. -/
def checkConst (argument value : Json) : Verdict :=
  faultIf (!same value argument) (.notConstant argument)

/-! ## Demands on numbers -/

/-- Is one rational number a multiple of another? -/
def isExactMultiple (value divisor : Magnitude) : Bool :=
  match value, divisor with
  | .finite a, .finite b => (a / b).den == 1
  | _, _ => false

/-- A number as a floating-point number, if it has one near it. -/
def toFloat? : Json → Option Float
  | .int n => Decimal.ofInt? n
  | .float x => some x
  | _ => none

/-- Is a number a multiple of a floating-point number? The quotient decides unless it is beyond all
bounds. -/
def isMultipleOfFloat (value : Json) (x divisor : Float) : Except Obstacle Bool :=
  let quotient := x / divisor
  if quotient.isNaN then .error .quotientUndefined
  else if !quotient.isInf then .ok (Decimal.toInt? quotient).isSome
  else if x.isInf then .error .numberTooLarge
  else .ok (related isExactMultiple value (.float divisor))

/-- Is a number a multiple of a divisor? If one of the two is a floating-point number, the other becomes
one. -/
def isMultiple (value divisor : Json) : Except Obstacle Bool :=
  match divisor, value with
  | .float d, value =>
    match toFloat? value with
    | some x => isMultipleOfFloat value x d
    | none => .error .numberTooLarge
  | divisor, .float x =>
    match toFloat? divisor with
    | some d => .ok (related isExactMultiple (.float x) (.float d))
    | none => .error .numberTooLarge
  | divisor, value => .ok (related isExactMultiple value divisor)

/-- The value is a multiple of a number. -/
def checkMultipleOf (argument value : Json) : Verdict :=
  if isType "number" value then
    andThen (isMultiple value argument) fun fits => faultIf (!fits) (.notMultiple value argument)
  else valid

/-- The value is at least so large. -/
def checkMinimum (argument value : Json) : Verdict :=
  faultIf (below value argument) (.belowMinimum value argument)

/-- The value is larger. -/
def checkExclusiveMinimum (argument value : Json) : Verdict :=
  faultIf (notAbove value argument) (.notAboveMinimum value argument)

/-- The value is at most so large. -/
def checkMaximum (argument value : Json) : Verdict :=
  faultIf (below argument value) (.aboveMaximum value argument)

/-- The value is smaller. -/
def checkExclusiveMaximum (argument value : Json) : Verdict :=
  faultIf (notAbove argument value) (.notBelowMaximum value argument)

/-! ## Demands on sizes -/

/-- The size is not too small; a demand for one part at least has words of its own. -/
def checkLeast (size : Nat) (argument value : Json) (tooFew : Json → Fault) : Verdict :=
  faultIf (below (.nat size) argument)
    (if same argument (.nat 1) then .mustNotBeEmpty value else tooFew value)

/-- The size is not too large; a demand for no part at all has words of its own. -/
def checkMost (size : Nat) (argument value : Json) (tooMany : Json → Fault) : Verdict :=
  faultIf (below argument (.nat size))
    (if same argument (.nat 0) then .mustBeEmpty value else tooMany value)

/-- The text has so many characters at least. -/
def checkMinLength (argument value : Json) : Verdict :=
  (value.text?.map fun s => checkLeast s.length argument value .tooShort).getD valid

/-- The text has so many characters at most. -/
def checkMaxLength (argument value : Json) : Verdict :=
  (value.text?.map fun s => checkMost s.length argument value .tooLong).getD valid

/-- The list has so many items at least. -/
def checkMinItems (argument value : Json) : Verdict :=
  (value.items?.map fun items => checkLeast items.length argument value .tooShort).getD valid

/-- The list has so many items at most. -/
def checkMaxItems (argument value : Json) : Verdict :=
  (value.items?.map fun items => checkMost items.length argument value .tooLong).getD valid

/-- The record has so many members at least. -/
def checkMinProperties (argument value : Json) : Verdict :=
  (value.fields?.map fun fields =>
    checkLeast fields.length argument value .tooFewMembers).getD valid

/-- The record has so many members at most. -/
def checkMaxProperties (argument value : Json) : Verdict :=
  (value.fields?.map fun fields =>
    checkMost fields.length argument value .tooManyMembers).getD valid

/-! ## Demands on texts -/

/-- A part of the text is described by a pattern. -/
def checkPattern (argument value : Json) : Verdict :=
  match argument, value with
  | .str pattern, .str text =>
    match Pattern.read pattern with
    | .ok p => faultIf (!p.occursIn text) (.notDescribed value pattern)
    | .error defect => ⟨[], some (.patternDefective defect)⟩
  | _, _ => valid

/-- The text has a format. -/
def checkFormat (c : Context) (argument value : Json) : Verdict :=
  match argument, value with
  | .str format, .str text =>
    andThen (c.hasFormat format text) fun fits => faultIf (!fits) (.badFormat value format)
  | _, _ => valid

/-! ## Demands on lists -/

/-- Items from a position on fit schemas, one for each. -/
def checkItems (c : Context) (position : Nat) (schemas items : List Json) : Verdict :=
  all ((schemas.zip items).zipIdx.map fun ((schema, item), i) =>
    c.checkPart (.index (position + i)) schema item)

/-- The first items fit schemas of their own. -/
def checkPrefixItems (c : Context) (argument value : Json) : Verdict :=
  checkItems c 0 (listOf argument) (listOf value)

/-- All items but those with schemas of their own fit a schema. -/
def checkOtherItems (c : Context) (argument value : Json) : Verdict :=
  let skipped := (listOf ((Fields.get? "prefixItems" c.schema).getD .null)).length
  let others := (listOf value).drop skipped
  match argument with
  | .bool false => faultIf (!others.isEmpty) (.surplusItems skipped others)
  | schema => checkItems c skipped (others.map fun _ => schema) others

/-- Counts the items that fit a schema; counting ends above the limit. -/
def countAccepted (c : Context) (schema limit : Json) (found : Nat) :
    List Json → Except Obstacle Nat
  | [] => .ok found
  | item :: rest => do
    let found := if ← c.accepts schema item then found + 1 else found
    if below limit (.nat found) then return found else countAccepted c schema limit found rest

/-- Some items fit a schema: one at least, unless other bounds stand beside it. -/
def checkContains (c : Context) (argument value : Json) : Verdict :=
  match value with
  | .list items =>
    let least := (Fields.get? "minContains" c.schema).getD (.nat 1)
    let most := (Fields.get? "maxContains" c.schema).getD (.nat items.length)
    andThen (countAccepted c argument most 0 items) fun found =>
      if below most (.nat found) then fault (.containsTooMany most)
      else faultIf (below (.nat found) least)
        (if found = 0 then .containsNone value else .containsTooFew least found)
  | _ => valid

/-- No two items are the same, as far as sorting shows it. -/
def checkUniqueItems (argument value : Json) : Verdict :=
  faultIf (argument.isTruthy && !passesForDifferent (listOf value)) (.repeatedItems value)

/-! ## Demands on records -/

/-- Members with certain names fit schemas of their own. -/
def checkProperties (c : Context) (argument value : Json) : Verdict :=
  all ((membersOf argument).filterMap fun (name, schema) =>
    (value.get? name).map fun item => c.checkPart (.key name) schema item)

/-- The members for which there is no schema of their own. -/
def others (c : Context) (value : Json) : Fields :=
  let named := membersOf ((Fields.get? "properties" c.schema).getD .null)
  (membersOf value).filter fun member => !Fields.has member.1 named

/-- All other members fit a schema. -/
def checkAdditionalProperties (c : Context) (argument value : Json) : Verdict :=
  match argument with
  | .record _ => all ((others c value).map fun (name, item) => c.checkPart (.key name) argument item)
  | _ =>
    let names := ((others c value).map Prod.fst).mergeSort fun a b => !decide (b < a)
    faultIf (!argument.isTruthy && !names.isEmpty) (.unexpectedMembers names)

/-- The names of all members fit a schema. -/
def checkPropertyNames (c : Context) (argument value : Json) : Verdict :=
  all ((membersOf value).map fun member => c.check argument (.str member.1))

/-- The record has certain members. -/
def checkRequired (argument value : Json) : Verdict :=
  match value with
  | .record fields =>
    all ((textsOf argument).map fun name => faultIf (!Fields.has name fields) (.missingMember name))
  | _ => valid

/-- A record that has one member has certain others. -/
def checkDependentRequired (argument value : Json) : Verdict :=
  match value with
  | .record fields =>
    all (((membersOf argument).filter fun (name, _) => Fields.has name fields).flatMap
      fun (dependent, names) => (textsOf names).map fun name =>
        faultIf (!Fields.has name fields) (.unmetDependency name dependent))
  | _ => valid

/-! ## Schemas put together -/

/-- The value fits all schemas. -/
def checkAllOf (c : Context) (argument value : Json) : Verdict :=
  all ((listOf argument).map fun schema => c.check schema value)

/-- The schemas from the first one on that a value fits. -/
def fromFirstFit (c : Context) (value : Json) : List Json → Except Obstacle (List Json)
  | [] => .ok []
  | schema :: rest => do
    let violations ← (c.check schema value).complete
    if violations.isEmpty then return schema :: rest else fromFirstFit c value rest

/-- The value fits one of the schemas. -/
def checkAnyOf (c : Context) (argument value : Json) : Verdict :=
  andThen (fromFirstFit c value (listOf argument)) fun fit =>
    faultIf fit.isEmpty (.noAlternative value)

/-- The value fits one of the schemas and no other. -/
def checkOneOf (c : Context) (argument value : Json) : Verdict :=
  andThen (fromFirstFit c value (listOf argument)) fun
    | [] => fault (.noAlternative value)
    | first :: rest =>
      andThen (rest.filterM fun schema => c.accepts schema value) fun more =>
        faultIf (!more.isEmpty) (.severalAlternatives value (more ++ [first]))

/-- The value does not fit a schema. -/
def checkNot (c : Context) (argument value : Json) : Verdict :=
  andThen (c.accepts argument value) fun fits => faultIf fits (.excluded value argument)

/-- A value that fits a schema also fits a second one, and one that does not fits a third. -/
def checkIf (c : Context) (argument value : Json) : Verdict :=
  andThen (c.accepts argument value) fun fits =>
    match Fields.get? (if fits then "then" else "else") c.schema with
    | some schema => c.check schema value
    | none => valid

/-- The value fits the schema at another place. -/
def checkRef (c : Context) (argument value : Json) : Verdict :=
  match argument with
  | .str reference => andThen (c.resolve reference) fun schema => c.check schema value
  | _ => valid

/-- Applies the keyword with this name. What is no keyword demands nothing. -/
def checkKeyword (c : Context) (name : String) (argument value : Json) : Verdict :=
  match name with
  | "type" => checkType argument value
  | "enum" => checkEnum argument value
  | "const" => checkConst argument value
  | "multipleOf" => checkMultipleOf argument value
  | "minimum" => checkMinimum argument value
  | "exclusiveMinimum" => checkExclusiveMinimum argument value
  | "maximum" => checkMaximum argument value
  | "exclusiveMaximum" => checkExclusiveMaximum argument value
  | "minLength" => checkMinLength argument value
  | "maxLength" => checkMaxLength argument value
  | "pattern" => checkPattern argument value
  | "format" => checkFormat c argument value
  | "minItems" => checkMinItems argument value
  | "maxItems" => checkMaxItems argument value
  | "uniqueItems" => checkUniqueItems argument value
  | "prefixItems" => checkPrefixItems c argument value
  | "items" => checkOtherItems c argument value
  | "contains" => checkContains c argument value
  | "minProperties" => checkMinProperties argument value
  | "maxProperties" => checkMaxProperties argument value
  | "required" => checkRequired argument value
  | "properties" => checkProperties c argument value
  | "additionalProperties" => checkAdditionalProperties c argument value
  | "propertyNames" => checkPropertyNames c argument value
  | "dependentRequired" => checkDependentRequired argument value
  | "allOf" => checkAllOf c argument value
  | "anyOf" => checkAnyOf c argument value
  | "oneOf" => checkOneOf c argument value
  | "not" => checkNot c argument value
  | "if" => checkIf c argument value
  | "$ref" => checkRef c argument value
  | _ => valid

end Runbook.Schema
