import Runbook.Decode.Issue
import Runbook.Json.Display
import Runbook.Pattern.Notation

/-!
# What a schema has against a value

A violation says where in a value something is not as the schema demands, and what. The words for it show
the values that are concerned.
-/

namespace Runbook.Schema

open Decode (Part)

/-- In which way a value does not fit a schema. Numbers that a schema gives are kept as they are written. -/
inductive Fault where
  | nothingFits (value : Json)
  | wrongType (value : Json) (types : List String)
  | notListed (value : Json) (choices : List Json)
  | notConstant (expected : Json)
  | belowMinimum (value minimum : Json)
  | notAboveMinimum (value minimum : Json)
  | aboveMaximum (value maximum : Json)
  | notBelowMaximum (value maximum : Json)
  | notMultiple (value divisor : Json)
  | tooShort (value : Json)
  | mustNotBeEmpty (value : Json)
  | tooLong (value : Json)
  | mustBeEmpty (value : Json)
  | tooFewMembers (value : Json)
  | tooManyMembers (value : Json)
  | repeatedItems (value : Json)
  | notDescribed (value : Json) (pattern : String)
  | badFormat (value : Json) (format : String)
  | missingMember (name : String)
  | unexpectedMembers (names : List String)
  | unmetDependency (name dependent : String)
  | surplusItems (allowed : Nat) (surplus : List Json)
  | containsNone (value : Json)
  | containsTooMany (limit : Json)
  | containsTooFew (limit : Json) (found : Nat)
  | noAlternative (value : Json)
  | severalAlternatives (value : Json) (schemas : List Json)
  | excluded (value schema : Json)

/-- Texts one after the other, with commas between them. -/
def commaList (texts : List String) : String :=
  ", ".intercalate texts

/-- A text in quotes. -/
def shown (s : String) : String :=
  (Json.str s).display

/-- Surplus items as they are shown: one by itself, several as a list. -/
def shownSurplus : List Json → String
  | [item] => item.display
  | items => (Json.list items).display

/-- The words for a fault. -/
def Fault.message : Fault → String
  | nothingFits value => s!"False schema does not allow {value.display}"
  | wrongType value types => s!"{value.display} is not of type {commaList (types.map shown)}"
  | notListed value choices => s!"{value.display} is not one of {(Json.list choices).display}"
  | notConstant expected => s!"{expected.display} was expected"
  | belowMinimum value minimum =>
    s!"{value.display} is less than the minimum of {minimum.display}"
  | notAboveMinimum value minimum =>
    s!"{value.display} is less than or equal to the minimum of {minimum.display}"
  | aboveMaximum value maximum =>
    s!"{value.display} is greater than the maximum of {maximum.display}"
  | notBelowMaximum value maximum =>
    s!"{value.display} is greater than or equal to the maximum of {maximum.display}"
  | notMultiple value divisor => s!"{value.display} is not a multiple of {divisor.display}"
  | tooShort value => s!"{value.display} is too short"
  | mustNotBeEmpty value => s!"{value.display} should be non-empty"
  | tooLong value => s!"{value.display} is too long"
  | mustBeEmpty value => s!"{value.display} is expected to be empty"
  | tooFewMembers value => s!"{value.display} does not have enough properties"
  | tooManyMembers value => s!"{value.display} has too many properties"
  | repeatedItems value => s!"{value.display} has non-unique elements"
  | notDescribed value pattern => s!"{value.display} does not match {shown pattern}"
  | badFormat value format => s!"{value.display} is not a {shown format}"
  | missingMember name => s!"{shown name} is a required property"
  | unexpectedMembers names =>
    let verb := if names.length = 1 then "was" else "were"
    s!"Additional properties are not allowed ({commaList (names.map shown)} {verb} unexpected)"
  | unmetDependency name dependent => s!"{shown name} is a dependency of {shown dependent}"
  | surplusItems allowed surplus =>
    let noun := if allowed = 1 then "item" else "items"
    s!"Expected at most {allowed} {noun} but found {surplus.length} extra: {shownSurplus surplus}"
  | containsNone value => s!"{value.display} does not contain items matching the given schema"
  | containsTooMany limit =>
    s!"Too many items match the given schema (expected at most {limit.display})"
  | containsTooFew limit found =>
    s!"Too few items match the given schema (expected at least {limit.display} " ++
      s!"but only {found} matched)"
  | noAlternative value => s!"{value.display} is not valid under any of the given schemas"
  | severalAlternatives value schemas =>
    s!"{value.display} is valid under each of {commaList (schemas.map Json.display)}"
  | excluded value schema => s!"{value.display} should not be valid under {schema.display}"

/-- A fault and the way to the value that has it. -/
structure Violation where
  location : List Part
  fault : Fault

/-- Why a check cannot be carried out. -/
inductive Obstacle where
  /-- A reference that leads nowhere. -/
  | unresolvable (reference : String)
  /-- References that lead back to themselves without end. -/
  | endless
  /-- A reference that leads into a value without parts. -/
  | noParts
  /-- A reference that names a place in a list by something else than an integer. -/
  | noPosition (step : String)
  /-- A reference to a text or a list, which cannot be applied. -/
  | notApplicable
  /-- A reference to a value that cannot even be looked at like a schema. -/
  | notLegible
  /-- A pattern that cannot be read. -/
  | patternDefective (defect : Pattern.Defect)
  /-- A number that is beyond the floating-point numbers. -/
  | numberTooLarge
  /-- A quotient that is not a number. -/
  | quotientUndefined
  deriving DecidableEq, Repr

/-- The outcome of a check: the violations that were found, and what put an end to it before it was
through, if anything did. -/
structure Verdict where
  violations : List Violation
  obstacle : Option Obstacle := none

namespace Verdict

/-- Nothing is wrong. -/
def valid : Verdict :=
  ⟨[], none⟩

/-- One fault at the value itself. -/
def fault (f : Fault) : Verdict :=
  ⟨[⟨[], f⟩], none⟩

/-- A fault if a condition holds. -/
def faultIf (condition : Bool) (f : Fault) : Verdict :=
  if condition then fault f else valid

/-- One check after the other; the second is not made if the first met an obstacle. -/
def append (first second : Verdict) : Verdict :=
  match first.obstacle with
  | some _ => first
  | none => ⟨first.violations ++ second.violations, second.obstacle⟩

/-- Checks one after the other. -/
def all (verdicts : List Verdict) : Verdict :=
  verdicts.foldl append valid

/-- The same verdict on a part of a larger value. -/
def within (part : Part) (v : Verdict) : Verdict :=
  { v with violations := v.violations.map fun x => { x with location := part :: x.location } }

/-- Is the value valid? The first violation decides; an obstacle counts only before that. -/
def isValid (v : Verdict) : Except Obstacle Bool :=
  match v.violations, v.obstacle with
  | _ :: _, _ => .ok false
  | [], some obstacle => .error obstacle
  | [], none => .ok true

/-- Goes on with the outcome of a check that may have met an obstacle. -/
def andThen {α : Type} (x : Except Obstacle α) (f : α → Verdict) : Verdict :=
  match x with
  | .ok a => f a
  | .error obstacle => ⟨[], some obstacle⟩

/-- The violations, once the whole check has been made. -/
def complete (v : Verdict) : Except Obstacle (List Violation) :=
  match v.obstacle with
  | some obstacle => .error obstacle
  | none => .ok v.violations

end Verdict

end Runbook.Schema
