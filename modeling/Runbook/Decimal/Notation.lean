import Runbook.Decimal.Shortest

/-!
# Numerals

How a number is written is a matter of a few decisions: how many digits, from which size on an exponent
is written, whether a whole number keeps a point, and the words for what is not finite. A `Style`
value collects them; `Style.write` applies them. Two such values are in use, one for values
(`Style.exact`) and one for short durations in messages (`Style.brief`).
-/

namespace Runbook.Decimal

/-- The decisions behind a way of writing floating-point numbers. -/
structure Style where
  /-- Round to so many digits; the fewest that read back if absent. -/
  digits : Option Nat
  /-- The largest leading place that is still written without an exponent. -/
  maxPlace : Int
  /-- Does a whole number end in a point and a zero? -/
  keepsPoint : Bool
  /-- The word for what is not a number. -/
  nan : String
  /-- The word for infinity, written after its sign. -/
  infinity : String
  deriving Repr

/-- `exact` writes the fewest digits that read back; a whole number keeps its `.0`, and from `10 ^ 16`
on an exponent is written. -/
def Style.exact : Style :=
  { digits := none, maxPlace := 16, keepsPoint := true, nan := "nan", infinity := "inf" }

/-- `brief` writes six digits at most and nothing superfluous. -/
def Style.brief : Style :=
  { digits := some 6, maxPlace := 6, keepsPoint := false, nan := "nan", infinity := "inf" }

/-- The digits of a natural number. -/
def digitText (n : Nat) : List Char :=
  Nat.toDigits 10 n

/-- An exponent with its sign and at least two digits. -/
def exponentText (e : Int) : List Char :=
  let digits := digitText e.natAbs
  'e' :: (if e < 0 then '-' else '+') :: (if digits.length < 2 then '0' :: digits else digits)

/-- Writes `digits * 10 ^ exponent` without an exponent. -/
def positional (style : Style) (s : Scientific) : List Char :=
  let digits := digitText s.digits
  let place := (digits.length : Int) + s.exponent
  if 0 ≤ s.exponent then
    digits ++ List.replicate s.exponent.toNat '0' ++ (if style.keepsPoint then ['.', '0'] else [])
  else if 0 < place then
    digits.take place.toNat ++ '.' :: digits.drop place.toNat
  else '0' :: '.' :: (List.replicate (-place).toNat '0' ++ digits)

/-- Writes `digits * 10 ^ exponent` with one digit before the point, and an exponent. -/
def exponential (s : Scientific) : List Char :=
  let digits := digitText s.digits
  let place := (digits.length : Int) + s.exponent
  match digits with
  | [] => []
  | [d] => d :: exponentText (place - 1)
  | d :: ds => d :: '.' :: (ds ++ exponentText (place - 1))

/-- Writes a decimal number; an exponent is for what is `10 ^ maxPlace` or more, and for what is less
than `10 ^ -4`. -/
def Style.writeScientific (style : Style) (s : Scientific) : List Char :=
  let place := (digitCount s.digits : Int) + s.exponent
  if -4 < place && place ≤ style.maxPlace then positional style s else exponential s

/-- The numeral for a floating-point number. -/
def Style.write (style : Style) (x : Float) : String :=
  match Value.ofFloat x with
  | .nan => style.nan
  | .infinite negative => (if negative then "-" else "") ++ style.infinity
  | .finite negative mantissa exponent =>
    let s := match style.digits with
      | some count => rounded count mantissa exponent
      | none => shortest mantissa exponent
    (if negative then "-" else "") ++ String.ofList (style.writeScientific s)

end Runbook.Decimal
