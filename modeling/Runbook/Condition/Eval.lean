import Runbook.Condition.Expr
import Runbook.Token.Resolve

/-!
# The value of a condition

Equality compares the texts of two operands. The orderings compare numbers if both operands are numbers
or read as such, and texts by their characters otherwise. What fails makes a condition false: the tokens
that cannot be resolved, and numbers beyond all bounds.

A step runs if its condition holds for the data points at hand (`Condition.holds`); without a condition,
or with a blank one, it runs.
-/

namespace Runbook.Condition

/-- Why an operand has no value. -/
inductive EvalError where
  /-- An integer beyond the floating-point numbers. -/
  | beyondFloat
  /-- An integer of more digits than are written. -/
  | tooManyDigits
  deriving DecidableEq, Repr

/-- The number that an operand is or reads as. -/
def Operand.toNumber? : Operand → Except EvalError (Option Float)
  | .bool b => .ok (some (if b then 1.0 else 0.0))
  | .float x => .ok (some x)
  | .int n => ofInt n
  | .text s =>
    match number? s.toList with
    | some (.int n) => ofInt n
    | some (.float x) => .ok (some x)
    | none => .ok none
where
  ofInt (n : Int) : Except EvalError (Option Float) :=
    match Decimal.ofInt? n with
    | some x => .ok (some x)
    | none => .error .beyondFloat

/-- The text of an operand. -/
def Operand.plain (o : Operand) : Except EvalError String :=
  match o with
  | .int n => if Nat.pow 10 4300 ≤ n.natAbs then .error .tooManyDigits else .ok o.toJson.plain
  | _ => .ok o.toJson.plain

/-- Does a comparison hold, given when a value is less than another and when it is at most another? -/
def Comparison.orders {α : Type} (op : Comparison) (less atMost : α → α → Bool) (a b : α) : Bool :=
  match op with
  | .gt => less b a
  | .ge => atMost b a
  | .lt => less a b
  | .le => atMost a b
  | .eq => atMost a b && atMost b a
  | .ne => !(atMost a b && atMost b a)

/-- Compares two operands. -/
def compare (op : Comparison) (left right : Operand) : Except EvalError Bool := do
  match op with
  | .eq => return (← left.plain) == (← right.plain)
  | .ne => return (← left.plain) != (← right.plain)
  | op =>
    match ← left.toNumber?, ← right.toNumber? with
    | some a, some b => return op.orders (fun x y => x < y) (fun x y => x ≤ y) a b
    | _, _ =>
      return op.orders (fun x y : String => x < y) (fun x y => !decide (y < x)) (← left.plain)
        (← right.plain)

/-- The texts that are not true by themselves. -/
def emptyTexts : List String :=
  ["\"\"", "''", ""]

mutual

/-- The value of a condition. Parts are evaluated from left to right until the outcome is known. -/
def Expr.eval : Expr → Except EvalError Bool
  | .constant value => .ok value
  | .not operand => operand.eval.map (!·)
  | .all parts => evalAll parts
  | .any parts => evalAny parts
  | .compare op left right => Condition.compare op left right
  | .truthy text => .ok (!emptyTexts.contains text)

/-- Do all parts hold? -/
def evalAll : List Expr → Except EvalError Bool
  | [] => .ok true
  | part :: parts => do
    let value ← part.eval
    if value then evalAll parts else return false

/-- Does one of the parts hold? -/
def evalAny : List Expr → Except EvalError Bool
  | [] => .ok false
  | part :: parts => do
    let value ← part.eval
    if value then return true else evalAny parts

end

/-- The warning about a condition that cannot be evaluated. -/
def evaluationRecord (condition : Json) : Log.Record :=
  { source := .conditions
    level := .warning
    message := "Condition evaluation failed"
    fields := [("condition", condition)]
    trace := true }

/-- The warning about a condition whose tokens cannot be resolved. -/
def interpolationRecord (condition : Json) : Log.Record :=
  { source := .conditions
    level := .warning
    message := "Condition interpolation failed"
    fields := [("condition", condition)]
    trace := true }

/-- Is a text without tokens true? What cannot be evaluated is not. -/
def evaluate (text : String) : Logged Bool :=
  match (parse text).eval with
  | .ok value => pure value
  | .error _ => do
    Logged.tell (evaluationRecord (.str text))
    return false

/-- Is a value true as a condition? Only texts are. -/
def evaluateValue : Json → Logged Bool
  | .str text => evaluate text
  | value => do
    Logged.tell (evaluationRecord value)
    return false

/-- The note on the value of a condition. -/
def evaluatedRecord (condition : Json) (interpolated : String) (result : Bool) : Log.Record :=
  { source := .conditions
    level := .debug
    message := "Condition evaluated"
    fields :=
      [("condition", condition), ("interpolated", .str interpolated), ("result", .bool result)] }

/-- Does a condition hold for the data points at hand? Null and blank conditions do. -/
def holds (s : Store) (condition : Json) : Logged Bool := do
  let text := condition.displayBare
  if condition.isNull || Text.isAllBlank text then return true
  else
    match ← (s.resolveText (Text.trim text)).outcome with
    | .error _ =>
      Logged.tell (interpolationRecord condition)
      return false
    | .ok interpolated =>
      let result ← evaluate interpolated
      Logged.tell (evaluatedRecord condition interpolated result)
      return result

/-- Does the condition of a step hold? A step without one always runs. -/
def holdsFor (s : Store) (condition : Option String) : Logged Bool :=
  holds s (Json.ofText? condition)

end Runbook.Condition
