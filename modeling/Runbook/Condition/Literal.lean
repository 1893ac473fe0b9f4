import Runbook.Condition.Lexeme
import Runbook.Decimal.Reading
import Runbook.Text.Digit
import Runbook.Token.Render

/-!
# Operands

An operand of a comparison is a text in quotes, `true` or `false` in any case, a number, or else the text
as it stands. A number is a decimal numeral, or a numeral in base sixteen, eight or two after `0x`, `0o`
or `0b`. A decimal numeral that has neither point nor exponent is an integer, but it is read as a
floating-point number first, so that an integer of many digits is the nearest one of those.
-/

namespace Runbook.Condition

/-- An operand of a comparison. -/
inductive Operand where
  | text (s : String)
  | bool (b : Bool)
  | int (n : Int)
  | float (x : Float)

/-- The value of an operand. -/
def Operand.toJson : Operand → Json
  | text s => .str s
  | bool b => .bool b
  | int n => .int n
  | float x => .float x

/-- The characters in lower case, as far as they are letters of ASCII. -/
def lower (cs : List Char) : List Char :=
  cs.map Char.toLower

/-- The characters with the decimal digits of every script in ASCII. -/
def asciiDigits (cs : List Char) : List Char :=
  cs.map fun c => match Text.decimalValue? c with
    | some d => Nat.digitChar d
    | none => c

/-- The number that the digits write in a base; nothing unless all are digits of that base. -/
def inBase? (base : Nat) (cs : List Char) : Option Int :=
  let value? (c : Char) : Option Nat :=
    let c := c.toLower
    let d := if '0' ≤ c && c ≤ '9' then some (c.toNat - '0'.toNat)
      else if 'a' ≤ c && c ≤ 'f' then some (c.toNat - 'a'.toNat + 10)
      else none
    d.filter (· < base)
  if cs.isEmpty then none
  else ((asciiDigits cs).mapM value?).map fun ds =>
    ((ds.foldl (fun n d => base * n + d) 0 : Nat) : Int)

/-- A number, whole or not. -/
inductive Number where
  | int (n : Int)
  | float (x : Float)

/-- Reads a decimal numeral; what it writes must be finite. -/
def decimal? (cs : List Char) : Option Number :=
  match Decimal.float? (asciiDigits cs) with
  | none => none
  | some x =>
    if !x.isFinite then none
    else if cs.contains '.' || cs.contains 'e' || cs.contains 'E' then some (.float x)
    else match Decimal.toInt? x with
      | some n => some (.int n)
      | none => some (.float x)

/-- Reads a numeral, with blanks around it or none. Underscores never stand in one. -/
def number? (cs : List Char) : Option Number :=
  let cs := Text.trimChars cs
  if cs.contains '_' then none
  else match cs with
    | '0' :: b :: digits =>
      if b = 'x' || b = 'X' then (inBase? 16 digits).map .int
      else if b = 'o' || b = 'O' then (inBase? 8 digits).map .int
      else if b = 'b' || b = 'B' then (inBase? 2 digits).map .int
      else decimal? cs
    | _ => decimal? cs

/-- The text between quotes; nothing if the first and the last character are not the same quote. -/
def unquote? (cs : List Char) : Option (List Char) :=
  match cs with
  | [] => none
  | q :: rest =>
    if isQuote q && (q :: rest).getLast? == some q then some rest.dropLast else none

/-- Reads an operand. -/
def operand (cs : List Char) : Operand :=
  let cs := Text.trimChars cs
  if lower cs = "true".toList then .bool true
  else if lower cs = "false".toList then .bool false
  else match unquote? cs with
    | some s => .text (String.ofList s)
    | none =>
      match number? cs with
      | some (.int n) => .int n
      | some (.float x) => .float x
      | none => .text (String.ofList cs)

end Runbook.Condition
