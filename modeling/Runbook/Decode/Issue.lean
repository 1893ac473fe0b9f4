/-!
# What can be wrong with a record

Records come from outside as JSON and are decoded into the types of the library. Decoding looks at every
field and collects what is wrong with each: an `Issue` says where and in which way. `Decoded α` is the
outcome of decoding, and its applicative structure is what collects the issues of the fields of one
record (`Decoded.seq_rejected`).
-/

namespace Runbook.Decode

/-- A step from a value to one of its parts. -/
inductive Part where
  | key (name : String)
  | index (position : Nat)
  deriving DecidableEq, Repr

/-- In which way a value does not fit. -/
inductive Fault where
  | missing
  | notRecord
  | notMap
  | notList
  | notText
  | textTooShort
  | notInteger
  | unreadableInteger
  | integerTooLong
  | fractionalInteger
  | notFinite
  | notNumber
  | unreadableNumber
  | notAbove
  | notAtLeast
  | notTruthValue
  | unreadableTruthValue
  | notMember
  | notLiteral
  deriving DecidableEq, Repr

/-- The code under which a fault is reported. -/
def Fault.code : Fault → String
  | missing => "missing"
  | notRecord => "model_type"
  | notMap => "dict_type"
  | notList => "list_type"
  | notText => "string_type"
  | textTooShort => "string_too_short"
  | notInteger => "int_type"
  | unreadableInteger => "int_parsing"
  | integerTooLong => "int_parsing_size"
  | fractionalInteger => "int_from_float"
  | notFinite => "finite_number"
  | notNumber => "float_type"
  | unreadableNumber => "float_parsing"
  | notAbove => "greater_than"
  | notAtLeast => "greater_than_equal"
  | notTruthValue => "bool_type"
  | unreadableTruthValue => "bool_parsing"
  | notMember => "enum"
  | notLiteral => "literal_error"

/-- A fault and the way to the value that has it. -/
structure Issue where
  location : List Part
  fault : Fault
  deriving DecidableEq, Repr

/-- The outcome of decoding: a value, or the issues that stand against it. -/
inductive Decoded (α : Type) where
  | accepted (value : α)
  | rejected (issues : List Issue)

namespace Decoded

variable {α β : Type}

/-- Applies a function to an accepted value. -/
def map (f : α → β) : Decoded α → Decoded β
  | accepted a => accepted (f a)
  | rejected issues => rejected issues

/-- Combines two outcomes; the issues of both are kept, those of the first in front. -/
def seq (f : Decoded (α → β)) (x : Unit → Decoded α) : Decoded β :=
  match f, x () with
  | accepted f, accepted a => accepted (f a)
  | accepted _, rejected issues => rejected issues
  | rejected issues, accepted _ => rejected issues
  | rejected issues, rejected more => rejected (issues ++ more)

instance : Applicative Decoded where
  pure := accepted
  map := map
  seq := seq

theorem seq_rejected (issues more : List Issue) :
    (rejected issues : Decoded (α → β)) <*> rejected more = rejected (issues ++ more) := rfl

/-- One fault at the value itself. -/
def fault (f : Fault) : Decoded α :=
  rejected [⟨[], f⟩]

/-- The same outcome for a part of a larger value. -/
def within (part : Part) : Decoded α → Decoded α
  | accepted a => accepted a
  | rejected issues =>
    rejected (issues.map fun issue => { issue with location := part :: issue.location })

/-- Goes on with a further check, which is made only of an accepted value. -/
def andThen (x : Decoded α) (f : α → Decoded β) : Decoded β :=
  match x with
  | accepted a => f a
  | rejected issues => rejected issues

/-- The value, if it was accepted. -/
def value? : Decoded α → Option α
  | accepted a => some a
  | rejected _ => none

end Decoded

/-- A value that was refused: the name of the kind of record that was expected, and what is wrong. -/
structure Rejection where
  expected : String
  issues : List Issue
  deriving DecidableEq, Repr

/-- The headline of the report on a refused value. -/
def Rejection.summary (r : Rejection) : String :=
  let count := r.issues.length
  let word := if count == 1 then "error" else "errors"
  s!"{count} validation {word} for {r.expected}"

/-- The outcome as a value or a rejection under the given name. -/
def Decoded.orReject {α : Type} (expected : String) : Decoded α → Except Rejection α
  | accepted a => .ok a
  | rejected issues => .error ⟨expected, issues⟩

end Runbook.Decode
