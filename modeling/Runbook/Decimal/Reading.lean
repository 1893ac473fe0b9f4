import Runbook.Decimal.Binary

/-!
# Reading numerals

The grammar of a floating-point numeral is: a sign or none, then either one of the words `inf`,
`infinity` and `nan` in any case, or digits with at most one point among them, and an exponent or none.
At least one digit stands before the exponent. `float?` reads such a numeral and nothing else, without
surrounding blanks; the result is the floating-point number nearest to what is written.
-/

namespace Runbook.Decimal

/-- The value of an ASCII digit. -/
def digit? (c : Char) : Option Nat :=
  if '0' ≤ c && c ≤ '9' then some (c.toNat - '0'.toNat) else none

/-- An ASCII digit. -/
def isDigit (c : Char) : Bool :=
  (digit? c).isSome

/-- The natural number that ASCII digits write; other characters are passed over. -/
def ofDigits (cs : List Char) : Nat :=
  (cs.filterMap digit?).foldl (fun n d => 10 * n + d) 0

/-- `± digits * 10 ^ exponent` as the nearest floating-point number. Powers far outside the range of
the finite numbers are decided by the number of digits alone. -/
def ofScientific (negative : Bool) (digits : Nat) (exponent : Int) : Float :=
  let place := (Nat.toDigits 10 digits).length + exponent
  if digits == 0 then nearest negative 0 1
  else if place < -400 then nearest negative 0 1
  else if 400 < place then nearest negative (Nat.pow 2 1024) 1
  else nearest negative (digits * Nat.pow 10 exponent.toNat) (Nat.pow 10 (-exponent).toNat)

/-- Splits a sign off the front; there is a minus if the first component is true. -/
def splitSign : List Char → Bool × List Char
  | '-' :: cs => (true, cs)
  | '+' :: cs => (false, cs)
  | cs => (false, cs)

/-- Reads an exponent up to the end of the text: nothing at all, or `e`, a sign or none, and digits. -/
def exponent? : List Char → Option Int
  | [] => some 0
  | c :: cs =>
    let (negative, ds) := splitSign cs
    if (c == 'e' || c == 'E') && !ds.isEmpty && ds.all isDigit then
      let e : Int := ((ofDigits ds : Nat) : Int)
      some (if negative then -e else e)
    else none

/-- Reads an unsigned numeral of digits, point and exponent. -/
def unsigned? (negative : Bool) (cs : List Char) : Option Float :=
  let whole := cs.takeWhile isDigit
  let (fraction, rest) := match cs.dropWhile isDigit with
    | '.' :: ds => (ds.takeWhile isDigit, ds.dropWhile isDigit)
    | ds => ([], ds)
  if whole.isEmpty && fraction.isEmpty then none
  else (exponent? rest).map fun e =>
    ofScientific negative (ofDigits (whole ++ fraction)) (e - fraction.length)

/-- Reads a floating-point numeral. -/
def float? (cs : List Char) : Option Float :=
  let (negative, body) := splitSign cs
  let word := String.ofList (body.map Char.toLower)
  if word == "inf" || word == "infinity" then some (nearest negative (Nat.pow 2 1024) 1)
  else if word == "nan" then some (0.0 / 0.0)
  else unsigned? negative body

end Runbook.Decimal
