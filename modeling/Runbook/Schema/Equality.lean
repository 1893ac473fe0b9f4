import Runbook.Decimal.Binary
import Runbook.Json.Basic

/-!
# When values are the same

Schemas compare numbers by what they stand for, however they are written: an integer can be the same as a
floating-point number. Truth values are no numbers, and records are the same if they have the same members
in any order.
-/

namespace Runbook.Schema

/-- What a number stands for. -/
inductive Magnitude where
  | finite (value : Rat)
  | infinite (negative : Bool)
  | undefined
  deriving DecidableEq

namespace Magnitude

/-- The magnitude of a floating-point number. -/
def ofFloat (x : Float) : Magnitude :=
  match Decimal.Value.ofFloat x with
  | .nan => undefined
  | .infinite negative => infinite negative
  | .finite negative mantissa exponent =>
    let value : Rat := mkRat ((mantissa * Nat.pow 2 exponent.toNat : Nat) : Int) (Nat.pow 2 (-exponent).toNat)
    finite (if negative then -value else value)

/-- The magnitude of a value, if it is a number. -/
def ofJson? : Json → Option Magnitude
  | .int n => some (finite n)
  | .float x => some (ofFloat x)
  | _ => none

/-- Is one magnitude less than another? Nothing is less or more than what is undefined. -/
def less : Magnitude → Magnitude → Bool
  | finite a, finite b => a < b
  | finite _, infinite negative => !negative
  | infinite negative, finite _ => negative
  | infinite a, infinite b => a && !b
  | _, _ => false

/-- Are two magnitudes the same? What is undefined is not the same as anything. -/
def same : Magnitude → Magnitude → Bool
  | undefined, _ => false
  | a, b => a = b

/-- Is one magnitude less than another or the same? -/
def atMost (a b : Magnitude) : Bool :=
  less a b || same a b

end Magnitude

mutual

/-- Are two values the same? -/
def same : Json → Json → Bool
  | .null, .null => true
  | .bool a, .bool b => a == b
  | .str a, .str b => a == b
  | .list as, .list bs => sameItems as bs
  | .record as, .record bs => as.length == bs.length && sameFields as bs
  | a, b => match Magnitude.ofJson? a, Magnitude.ofJson? b with
    | some a, some b => a.same b
    | _, _ => false

/-- Are the items of two lists the same? -/
def sameItems : List Json → List Json → Bool
  | [], [] => true
  | a :: as, b :: bs => same a b && sameItems as bs
  | _, _ => false

/-- Does a record have these members? -/
def sameFields : List (String × Json) → List (String × Json) → Bool
  | [], _ => true
  | (key, a) :: rest, bs =>
    (match Fields.get? key bs with
      | some b => same a b
      | none => false) && sameFields rest bs

end

end Runbook.Schema
