import Runbook.Json.Display
import Runbook.Text.Digit
import Runbook.Token.Basic

/-!
# The text of a value

Where a token stands, the text of the value comes in: nothing for null, `true` and `false`, numbers in
decimal digits without a fraction where there is none, texts as they are, lists and records as indented
JSON. A token with a field takes the text of that field, or of the item at that position in a list; of
a value that has no parts it takes the text of the whole.
-/

namespace Runbook

/-- The text of a floating-point number: a whole number is written without a fraction. -/
def Json.floatPlain (x : Float) : String :=
  match Decimal.Value.ofFloat x with
  | .nan => "NaN"
  | .infinite negative => if negative then "-Infinity" else "Infinity"
  | .finite .. =>
    match Decimal.toInt? x with
    | some n => String.ofList (integerText n)
    | none => Decimal.Style.exact.write x

/-- The text of a value. -/
def Json.plain : Json → String
  | null => ""
  | bool b => if b then "true" else "false"
  | int n => String.ofList (integerText n)
  | float x => floatPlain x
  | str s => s
  | list items => (list items).pretty
  | record fields => (record fields).pretty

namespace Token

/-- Why the text of a field cannot be told. -/
inductive RenderError where
  /-- The field consists of digits that make no decimal numeral. -/
  | notDecimal (field : String)
  /-- The field is a numeral of more digits than are read. -/
  | tooLong (digits : Nat)
  deriving DecidableEq, Repr

/-- The words for a field that cannot be read as a position. -/
def RenderError.message : RenderError → String
  | notDecimal field =>
    s!"invalid literal for int() with base 10: {String.ofList (Json.displayText field)}"
  | tooLong digits =>
    s!"Exceeds the limit (4300 digits) for integer string conversion: value has {digits} digits; " ++
      "use sys.set_int_max_str_digits() to increase the limit"

/-- Positions of more digits are refused. -/
def maxPositionDigits : Nat := 4300

/-- Reads a field that consists of digits as a position. -/
def position (field : String) : Except RenderError Nat :=
  let cs := field.toList
  match Text.natural? cs with
  | none => .error (.notDecimal field)
  | some n => if maxPositionDigits < cs.length then .error (.tooLong cs.length) else .ok n

/-- The text of an item of a list; nothing if the field is no position in it. -/
def renderItem (items : List Json) (field : String) : Except RenderError String :=
  if Text.isDigits field.toList then
    (position field).map fun n => (items[n]?.map Json.plain).getD ""
  else .ok ""

/-- The text that a token with this field takes from a value. -/
def render (value : Json) : (field : Option String) → Except RenderError String
  | none => .ok value.plain
  | some field =>
    if field = rawField then .ok value.plain
    else match value with
      | .record fields => .ok ((Fields.get? field fields).getD .null).plain
      | .list items => renderItem items field
      | value => .ok value.plain

end Token

end Runbook
